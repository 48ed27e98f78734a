import SqlLint.Proofs.Parse.Attempt
import SqlLint.Proofs.Parse.Coupling

/-!
# Two runs of the readers of expressions

Every reader of expressions keeps two runs in step, given that the reader one level deeper does.
The two that go on after a failure, the scan of an item and the arguments of a call, are different:
what a comparison knows about a failure decides how they behave. `coupled_scanItem` and
`coupled_callArguments` leave to the comparison at hand what becomes of an attempt, and take care
of the rest.

A comparison may also want to treat the scan behind an opening parenthesis as a whole, since its
rounds need not be in step. Therefore the readers of expressions ask for `parenFragment` and not
for the scan of an item; `coupled_parenFragment` leads from one to the other.

## Main results

* `coupled_scanItem`, `coupled_callArguments`: attempts, given what becomes of them
* `coupled_parenFragment`, `coupled_fragment`: fragments, given the scan of one item
* `coupled_operatorChain`: an expression, given the scan behind a parenthesis and the arguments of
  a call
-/

namespace SqlLint

namespace Coupling

open SqlLint.Parser SqlLint.Pairing

variable (K : Coupling)

/-- How expressions correspond. -/
abbrev exprs : Link Expr := .upTo K.exact (Expr.renumber K.line)

/-- How lists of expressions correspond. -/
abbrev exprLists : Link (List Expr) := .upTo K.exact (List.map (Expr.renumber K.line))

/-! ## Tests on what lies ahead -/

@[simp] theorem opensParen_lexemes (ls : List Lexeme) :
    opensParen (K.lexemes ls) = opensParen ls := by
  cases ls <;> rfl

@[simp] theorem opensQuery_lexemes (ls : List Lexeme) :
    opensQuery (K.lexemes ls) = opensQuery ls := by
  cases ls <;> rfl

@[simp] theorem opensAllColumns_lexemes : ∀ ls : List Lexeme,
    opensAllColumns (K.lexemes ls) = opensAllColumns ls
  | [] => rfl
  | [_] => rfl
  | _ :: _ :: _ => rfl

@[simp] theorem atStart?_lexemes : ∀ ls : List Lexeme,
    BinaryOp.atStart? (K.lexemes ls) = BinaryOp.atStart? ls
  | [] => rfl
  | [_] => rfl
  | _ :: _ :: _ => rfl

theorem variableHere?_renumber (l : Lexeme) :
    (l.renumber K.line).variableHere? = l.variableHere?.map (Variable.renumber K.line) := by
  rw [Lexeme.variableHere?, Lexeme.variableHere?, Option.map_map]
  rfl

/-! ## Features of a call -/

theorem coupledAt_requireCast {kind : CastKind} {l : Lexeme} {ls : List Lexeme}
    (hl : castKind? l = some kind) (hls : opensParen ls) :
    K.CoupledAt (fun s => s.rest = l :: ls) .same (requireCast K.first kind)
      (requireCast K.second kind) := by
  unfold requireCast
  cases hg : kind.feature? with
  | none => exact (coupled_pure rfl).at
  | some g => exact K.coupledAt_require fun _ => ⟨l, ls, rfl, hls, .inr ⟨kind, hl, hg⟩⟩

theorem coupledAt_requireIif {l : Lexeme} {ls : List Lexeme} (hl : l.dispatch? = some .IIF) :
    K.CoupledAt (fun s => s.rest = l :: ls) .same (requireIif K.first ls)
      (requireIif K.second (K.lexemes ls)) := by
  unfold requireIif
  rw [K.opensParen_lexemes]
  split
  · next hls => exact K.coupledAt_require fun _ => ⟨l, ls, rfl, hls, .inl ⟨rfl, hl⟩⟩
  · exact (coupled_pure rfl).at

section

variable {deeper deeper' : Nat → Parser Expr}
  (hdeeper : ∀ m, K.Coupled K.exprs (deeper m) (deeper' m))

include hdeeper

/-! ## Casts -/

theorem coupled_castInside (kind : CastKind) :
    K.Coupled K.exprs (castInside K.first deeper kind) (castInside K.second deeper' kind) := by
  unfold castInside
  refine (hdeeper 0).bind fun operand operand' hoperand => ?_
  refine (K.coupled_expectKeyword .AS).bindSame fun _ => ?_
  refine K.coupled_takeTypeRef.bindGraph fun target => ?_
  refine (K.coupled_expect .rightParen).bindSame fun _ => coupled_pure fun hexact => ?_
  simp [hoperand hexact, Expr.renumber]

theorem coupled_convertInside (kind : CastKind) :
    K.Coupled K.exprs (convertInside K.first deeper kind)
      (convertInside K.second deeper' kind) := by
  unfold convertInside
  refine K.coupled_takeTypeRef.bindGraph fun target => ?_
  refine (K.coupled_expect .comma).bindSame fun _ => ?_
  refine (hdeeper 0).bind fun operand operand' hoperand => ?_
  refine (K.coupled_eat .comma).bindSame fun comma => coupled_ite (fun _ => ?_) fun _ => ?_
  · refine (hdeeper 0).bind fun style style' hstyle => ?_
    refine (K.coupled_expect .rightParen).bindSame fun _ => coupled_pure fun hexact => ?_
    simp [hoperand hexact, hstyle hexact, Expr.renumber]
  · refine (K.coupled_expect .rightParen).bindSame fun _ => coupled_pure fun hexact => ?_
    simp [hoperand hexact, Expr.renumber]

theorem coupled_takeCastInside : ∀ kind,
    K.Coupled K.exprs (takeCastInside K.first deeper kind) (takeCastInside K.second deeper' kind)
  | .cast => K.coupled_castInside hdeeper .cast
  | .tryCast => K.coupled_castInside hdeeper .tryCast
  | .convert => K.coupled_convertInside hdeeper .convert
  | .tryConvert => K.coupled_convertInside hdeeper .tryConvert

theorem coupledAt_takeCast {kind : CastKind} {l : Lexeme} {ls : List Lexeme}
    (hl : castKind? l = some kind) (hls : opensParen ls) :
    K.CoupledAt (fun s => s.rest = l :: ls) K.exprs (takeCast K.first deeper kind)
      (takeCast K.second deeper' kind) := by
  unfold takeCast
  refine (K.coupledAt_requireCast hl hls).bind fun _ _ _ => ?_
  refine (K.coupled_advance 1).bindSame fun _ => ?_
  exact (K.coupled_expect .leftParen).bindSame fun _ => K.coupled_takeCastInside hdeeper kind

theorem keepsErrors_takeCast (kind : CastKind) : KeepsErrors (takeCast K.first deeper kind) := by
  have hrequire : KeepsErrors (requireCast K.first kind) := by
    unfold requireCast
    cases kind.feature? with
    | none => exact fun _ => List.Subset.refl _
    | some g => exact keepsErrors_require K.first g
  unfold takeCast
  refine hrequire.bind fun _ => (K.coupled_advance 1).keeps.bind fun _ => ?_
  refine (K.coupled_expect .leftParen).keeps.bind fun _ => ?_
  exact (K.coupled_takeCastInside hdeeper kind).keeps

/-! ## Items of a scan -/

theorem keepsErrors_scanItem (found : List Expr) :
    KeepsErrors (scanItem K.first deeper found) := by
  intro s
  have hsame : s.errors ⊆ s.errors := List.Subset.refl _
  cases hrest : s.rest with
  | nil => rw [scanItem_nil _ _ _ hrest]; exact hsame
  | cons l ls =>
    rw [scanItem_cons _ _ _ hrest]
    split
    · exact hsame
    · split
      · split
        · unfold Cursor.noteIif
          split
          · exact hsame
          · exact Cursor.errors_subset_record _ s
        · split
          · next kind _ =>
            have hcast := K.keepsErrors_takeCast hdeeper kind s
            revert hcast
            cases takeCast K.first deeper kind s with
            | ok e t => exact fun h => h
            | error e t => exact fun h => List.Subset.trans h (Cursor.errors_subset_note e t)
          · exact hsame
      · exact hsame

/-- The scan of an item, given what is recorded at a call of `IIF` and what becomes of a cast. -/
theorem coupled_scanItem
    (hiif : ∀ {s t l ls}, K.Step s t → s.rest = l :: ls → l.isKeyword .IIF → opensParen ls →
      K.Meets .same (.ok () ((s.noteIif K.first l).moveTo ls))
        (.ok () ((t.noteIif K.second (l.renumber K.line)).moveTo (K.lexemes ls))))
    (htried : ∀ {s t l ls kind found found'}, K.Step s t → s.rest = l :: ls →
      castKind? l = some kind → opensParen ls → K.exprLists.Rel found found' →
      K.Meets K.exprLists (tried found ls (takeCast K.first deeper kind s))
        (tried found' (K.lexemes ls) (takeCast K.second deeper' kind t)))
    (found found' : List Expr) (hfound : K.exprLists.Rel found found') :
    K.Coupled K.exprLists (scanItem K.first deeper found) (scanItem K.second deeper' found') := by
  refine ⟨K.keepsErrors_scanItem hdeeper found, fun s t hst _ => ?_⟩
  have hrest := K.rest hst
  cases hs : s.rest with
  | nil =>
    rw [hs] at hrest
    rw [scanItem_nil _ _ _ hs, scanItem_nil _ _ _ hrest]
    exact .ok hfound (K.advance 1 hst)
  | cons l ls =>
    have hskip : K.Step (s.moveTo ls) (t.moveTo (K.lexemes ls)) :=
      K.moveTo hst (hs ▸ List.suffix_cons l ls)
    have hcast : castKind? (l.renumber K.line) = castKind? l := rfl
    rw [hs, List.map_cons] at hrest
    rw [scanItem_cons _ _ _ hs, scanItem_cons _ _ _ hrest, K.variableHere?_renumber,
      K.opensParen_lexemes, Lexeme.isKeyword_renumber, hcast]
    cases l.variableHere? with
    | some v => exact .ok (fun hexact => by rw [hfound hexact]; rfl) hskip
    | none =>
      simp only [Option.map_none]
      split
      · next hopens =>
        split
        · next hkeyword =>
          have hmeets := hiif hst hs hkeyword hopens
          revert hmeets
          generalize (s.noteIif K.first l).moveTo ls = u
          generalize (t.noteIif K.second (l.renumber K.line)).moveTo (K.lexemes ls) = u'
          rintro (⟨-, hstep⟩ | - | ⟨hover, herr⟩)
          · exact .ok hfound hstep
          · exact .recorded hover herr
        · split
          · next kind hkind => exact htried hst hs hkind hopens hfound
          · exact .ok hfound hskip
      · exact .ok hfound hskip

/-! ## `CASE` and prefix operators -/

theorem coupled_caseInput : K.Coupled K.exprLists (caseInput deeper) (caseInput deeper') := by
  unfold caseInput
  refine (K.coupled_atNext fun _ => rfl).bindSame fun branch =>
    coupled_ite (fun _ => coupled_pure fun _ => rfl) fun _ => ?_
  refine (hdeeper 0).bind fun e e' he => coupled_pure fun hexact => ?_
  rw [he hexact, List.map_cons, List.map_nil]

theorem coupled_whenRound (items items' : List Expr) (hitems : K.exprLists.Rel items items') :
    K.Coupled K.exprLists.option (whenRound K.first deeper items)
      (whenRound K.second deeper' items') := by
  unfold whenRound
  refine (K.coupled_eatKeyword .WHEN).bindSame fun branch =>
    coupled_ite (fun _ => ?_) fun _ => coupled_pure .none
  refine (hdeeper 0).bind fun condition condition' hcondition => ?_
  refine (K.coupled_expectKeyword .THEN).bindSame fun _ => ?_
  refine (hdeeper 0).bind fun value value' hvalue => coupled_pure (.some fun hexact => ?_)
  simp [hitems hexact, hcondition hexact, hvalue hexact]

theorem coupled_caseElse : K.Coupled K.exprLists (caseElse deeper) (caseElse deeper') := by
  unfold caseElse
  refine (K.coupled_eatKeyword .ELSE).bindSame fun otherwise =>
    coupled_ite (fun _ => ?_) fun _ => coupled_pure fun _ => rfl
  refine (hdeeper 0).bind fun e e' he => coupled_pure fun hexact => ?_
  rw [he hexact, List.map_cons, List.map_nil]

theorem coupled_takeCase :
    K.Coupled K.exprs (takeCase K.first deeper) (takeCase K.second deeper') := by
  unfold takeCase
  refine (K.coupled_expectKeyword .CASE).bindSame fun _ => ?_
  refine (K.coupled_caseInput hdeeper).bind fun input input' hinput => ?_
  refine Coupled.bind (K.coupled_repeatWhile (K.coupled_whenRound hdeeper) hinput)
    fun items items' hitems => ?_
  refine (K.coupled_caseElse hdeeper).bind fun otherwise otherwise' hotherwise => ?_
  refine (K.coupled_expectKeyword .END).bindSame fun _ => coupled_pure fun hexact => ?_
  simp [hitems hexact, hotherwise hexact, Expr.renumber]

theorem coupled_takeUnary (op : UnaryOp) :
    K.Coupled K.exprs (takeUnary deeper op) (takeUnary deeper' op) := by
  unfold takeUnary
  refine (K.coupled_advance 1).bindSame fun _ => ?_
  refine (hdeeper op.power).bind fun e e' he => coupled_pure fun hexact => ?_
  rw [he hexact, Expr.renumber]

end

/-! ## Fragments -/

section

variable {deeper deeper' : Nat → Parser Expr}
  (hscan : ∀ found found', K.exprLists.Rel found found' →
    K.Coupled K.exprLists (scanItem K.first deeper found) (scanItem K.second deeper' found'))

include hscan

/-- How the states of a scan behind an opening parenthesis correspond. -/
def parenStates : Link (Nat × List Expr) where
  Rel a b := b.1 = a.1 ∧ K.exprLists.Rel a.2 b.2
  total a := ⟨(a.1, a.2.map (Expr.renumber K.line)), rfl, fun _ => rfl⟩

theorem coupled_parenRound (state state' : Nat × List Expr)
    (hstate : K.parenStates.Rel state state') :
    K.Coupled K.parenStates.option (parenRound K.first deeper state)
      (parenRound K.second deeper' state') := by
  obtain ⟨depth, found⟩ := state
  obtain ⟨depth', found'⟩ := state'
  obtain ⟨rfl, hfound⟩ : depth' = depth ∧ K.exprLists.Rel found found' := hstate
  unfold parenRound
  refine K.coupled_bind_ahead fun ls => ?_
  cases ls with
  | nil => exact coupled_pure .none
  | cons l ls =>
    refine coupled_ite (fun _ => ?_) fun _ => coupled_ite (fun _ => ?_) fun _ => ?_
    · exact (K.coupled_advance 1).bindSame fun _ => coupled_pure (.some ⟨rfl, hfound⟩)
    · refine (K.coupled_advance 1).bindSame fun _ => coupled_ite (fun _ => ?_) fun _ => ?_
      · exact coupled_pure .none
      · exact coupled_pure (.some ⟨rfl, hfound⟩)
    · exact (hscan found found' hfound).bind fun _ _ h => coupled_pure (.some ⟨rfl, h⟩)

theorem coupled_parenFragment :
    K.Coupled K.exprLists (parenFragment K.first deeper) (parenFragment K.second deeper') := by
  unfold parenFragment
  refine Coupled.bind (K.coupled_repeatWhile (L := K.parenStates) (K.coupled_parenRound hscan)
    ⟨rfl, fun _ => rfl⟩) ?_
  rintro ⟨depth, found⟩ ⟨depth', found'⟩ ⟨-, hfound⟩
  refine coupled_pure fun hexact => ?_
  rw [show found' = _ from hfound hexact, List.map_reverse]

/-- How the states of a scan of a statement correspond. -/
def scanStates : Link Scanning where
  Rel a b := (b.depth = a.depth ∧ b.cases = a.cases ∧ b.setSeen = a.setSeen) ∧
    K.exprLists.Rel a.found b.found
  total a := ⟨{ a with found := a.found.map (Expr.renumber K.line) }, ⟨rfl, rfl, rfl⟩, fun _ => rfl⟩

theorem coupled_scanRound (inUpdate : Bool) (state state' : Scanning)
    (hstate : K.scanStates.Rel state state') :
    K.Coupled K.scanStates.option (scanRound K.first deeper inUpdate state)
      (scanRound K.second deeper' inUpdate state') := by
  obtain ⟨depth, cases, setSeen, found⟩ := state
  obtain ⟨depth', cases', setSeen', found'⟩ := state'
  obtain ⟨⟨rfl, rfl, rfl⟩, hfound⟩ : (depth' = depth ∧ cases' = cases ∧ setSeen' = setSeen) ∧
    K.exprLists.Rel found found' := hstate
  unfold scanRound
  refine K.coupled_bind_ahead fun ls => ?_
  cases ls with
  | nil => exact coupled_pure .none
  | cons l ls =>
    have hgo : ∀ (d c : Nat) (b : Bool),
        K.Coupled K.scanStates.option (do Parser.advance 1; return some ⟨d, c, b, found⟩)
          (do Parser.advance 1; return some ⟨d, c, b, found'⟩) :=
      fun d c b => (K.coupled_advance 1).bindSame fun _ =>
        coupled_pure (.some ⟨⟨rfl, rfl, rfl⟩, hfound⟩)
    refine coupled_ite (fun _ => coupled_pure .none) fun _ => ?_
    refine coupled_ite (fun _ => hgo _ _ _) fun _ => ?_
    refine coupled_ite (fun _ => hgo _ _ _) fun _ => ?_
    refine coupled_ite (fun _ => hgo _ _ _) fun _ => ?_
    refine coupled_ite (fun _ => hgo _ _ _) fun _ => ?_
    exact (hscan found found' hfound).bind fun _ _ h =>
      coupled_pure (.some ⟨⟨rfl, rfl, rfl⟩, h⟩)

theorem coupled_fragmentTail (inUpdate : Bool) :
    K.Coupled K.exprLists (fragmentTail K.first deeper inUpdate)
      (fragmentTail K.second deeper' inUpdate) := by
  unfold fragmentTail
  refine Coupled.bind (K.coupled_repeatWhile (L := K.scanStates)
    (K.coupled_scanRound hscan inUpdate) ⟨⟨rfl, rfl, rfl⟩, fun _ => rfl⟩) ?_
  rintro ⟨_, _, _, found⟩ ⟨_, _, _, found'⟩ ⟨-, hfound⟩
  refine coupled_pure fun hexact => ?_
  change found'.reverse = found.reverse.map _
  rw [show found' = _ from hfound hexact, List.map_reverse]

theorem coupled_fragment :
    K.Coupled K.exprLists (fragment K.first deeper) (fragment K.second deeper') := by
  unfold fragment
  refine K.coupled_bind_ahead fun ls => ?_
  cases ls with
  | nil => exact coupled_pure fun _ => rfl
  | cons l ls =>
    refine (K.coupled_advance 1).bindSame fun _ => ?_
    refine (K.coupled_fragmentTail hscan _).bind fun items items' hitems => ?_
    refine coupled_pure fun hexact => ?_
    rw [hitems hexact, List.map_append, K.variableHere?_renumber]
    cases l.variableHere? <;> rfl

end

/-! ## Clauses behind a call -/

theorem coupled_skipAllColumns : K.Coupled .same skipAllColumns skipAllColumns := by
  unfold skipAllColumns
  refine K.coupled_bind_ahead fun ls => ?_
  rw [K.opensAllColumns_lexemes]
  exact coupled_ite (fun _ => K.coupled_advance 2) fun _ => coupled_pure rfl

section

variable {deeper deeper' : Nat → Parser Expr}
  (hparen : K.Coupled K.exprLists (parenFragment K.first deeper) (parenFragment K.second deeper'))

include hparen

theorem coupled_withinGroup :
    K.Coupled K.exprLists (withinGroup K.first deeper) (withinGroup K.second deeper') := by
  unfold withinGroup
  refine (K.coupled_eatKeyword .WITHIN).bindSame fun within =>
    coupled_ite (fun _ => ?_) fun _ => coupled_pure fun _ => rfl
  refine (K.coupled_expectKeyword .GROUP).bindSame fun _ => ?_
  exact (K.coupled_expect .leftParen).bindSame fun _ => hparen

theorem coupled_overWindow :
    K.Coupled K.exprLists (overWindow K.first deeper) (overWindow K.second deeper') := by
  unfold overWindow
  refine (K.coupled_eatKeyword .OVER).bindSame fun window =>
    coupled_ite (fun _ => ?_) fun _ => coupled_pure fun _ => rfl
  exact (K.coupled_expect .leftParen).bindSame fun _ => hparen

theorem coupled_windowClauses :
    K.Coupled K.exprLists (windowClauses K.first deeper) (windowClauses K.second deeper') := by
  unfold windowClauses
  refine (K.coupled_withinGroup hparen).bind fun within within' hwithin => ?_
  refine (K.coupled_overWindow hparen).bind fun window window' hwindow => ?_
  refine coupled_pure fun hexact => ?_
  rw [hwithin hexact, hwindow hexact, List.map_append]

end

/-! ## Lists and infix operators -/

section

variable {deeper deeper' : Nat → Parser Expr}
  (hdeeper : ∀ m, K.Coupled K.exprs (deeper m) (deeper' m))
  (hparen : K.Coupled K.exprLists (parenFragment K.first deeper) (parenFragment K.second deeper'))

include hdeeper hparen

theorem coupled_listOrQuery :
    K.Coupled K.exprLists (listOrQuery K.first deeper) (listOrQuery K.second deeper') := by
  unfold listOrQuery
  refine K.coupled_bind_ahead fun ls => ?_
  rw [K.opensQuery_lexemes]
  refine coupled_ite (fun _ => hparen) fun _ => ?_
  refine (K.coupled_commaSeparated (hdeeper 0)).bind fun items items' hitems => ?_
  exact (K.coupled_expect .rightParen).bindSame fun _ => coupled_pure hitems

theorem coupled_takeParen :
    K.Coupled K.exprs (takeParen K.first deeper) (takeParen K.second deeper') := by
  unfold takeParen
  refine (K.coupled_advance 1).bindSame fun _ => K.coupled_bind_ahead fun ls => ?_
  rw [K.opensQuery_lexemes]
  refine coupled_ite (fun _ => ?_) fun _ => ?_
  · refine hparen.bind fun items items' hitems => coupled_pure fun hexact => ?_
    simp [hitems hexact, Expr.renumber]
  · refine (hdeeper 0).bind fun inner inner' hinner => ?_
    refine (K.coupled_eat .comma).bindSame fun comma => coupled_ite (fun _ => ?_) fun _ => ?_
    · refine (K.coupled_listOrQuery hdeeper hparen).bind fun items items' hitems => ?_
      refine coupled_pure fun hexact => ?_
      simp [hinner hexact, hitems hexact, Expr.renumber]
    · refine (K.coupled_expect .rightParen).bindSame fun _ => coupled_pure fun hexact => ?_
      rw [hinner hexact, Expr.renumber]

theorem coupled_takeRight (op : BinaryOp) :
    K.Coupled K.exprs (takeRight K.first deeper op) (takeRight K.second deeper' op) := by
  unfold takeRight
  split
  · refine (K.coupled_eatKeyword .NOT).bindSame fun _ => ?_
    exact (K.coupled_expectKeyword .NULL).bindSame fun _ => coupled_pure fun _ => rfl
  · refine (K.coupled_expect .leftParen).bindSame fun _ => ?_
    refine (K.coupled_listOrQuery hdeeper hparen).bind fun items items' hitems => ?_
    refine coupled_pure fun hexact => ?_
    simp [hitems hexact, Expr.renumber]
  · refine (hdeeper _).bind fun low low' hlow => ?_
    refine (K.coupled_expectKeyword .AND).bindSame fun _ => ?_
    refine (hdeeper _).bind fun high high' hhigh => coupled_pure fun hexact => ?_
    simp [hlow hexact, hhigh hexact, Expr.renumber]
  · refine (hdeeper _).bind fun pattern pattern' hpattern => ?_
    refine (K.coupled_eatKeyword .ESCAPE).bindSame fun _ =>
      coupled_ite (fun _ => ?_) fun _ => coupled_pure hpattern
    refine (hdeeper _).bind fun escape escape' hescape => coupled_pure fun hexact => ?_
    simp [hpattern hexact, hescape hexact, Expr.renumber]
  · exact hdeeper _

theorem coupled_infixRound (minPower : Nat) (left left' : Expr)
    (hleft : K.exprs.Rel left left') :
    K.Coupled K.exprs.option (infixRound K.first deeper minPower left)
      (infixRound K.second deeper' minPower left') := by
  unfold infixRound
  refine (K.coupled_eatKeyword .COLLATE).bindSame fun collate =>
    coupled_ite (fun _ => ?_) fun _ => ?_
  · exact (K.coupled_expectAny .collation).bindSame fun _ => coupled_pure (.some hleft)
  · refine K.coupled_bind_ahead fun ls => ?_
    rw [K.atStart?_lexemes]
    split
    · exact coupled_pure .none
    · next op width _ =>
      refine coupled_ite (fun _ => coupled_pure .none) fun _ => ?_
      refine (K.coupled_advance width).bindSame fun _ => ?_
      refine (K.coupled_takeRight hdeeper hparen op).bind fun right right' hright => ?_
      refine coupled_pure (.some fun hexact => ?_)
      rw [hleft hexact, hright hexact, Expr.renumber]

/-- The arguments of a call, given what becomes of the attempt to read them. -/
theorem coupled_callArguments
    (hretried : ∀ {s t}, K.Step s t → K.Opened s.rest →
      K.Meets K.exprLists (retried K.first deeper s.rest (listOrQuery K.first deeper s))
        (retried K.second deeper' t.rest (listOrQuery K.second deeper' t))) :
    K.CoupledAt (fun s => K.Opened s.rest) K.exprLists (callArguments K.first deeper)
      (callArguments K.second deeper') := by
  have hlist := (K.coupled_listOrQuery hdeeper hparen).keeps
  rw [callArguments_eq, callArguments_eq]
  refine K.coupledAt_bind_eatIf (T := fun _ => True) (fun _ => rfl) (fun _ _ _ _ => trivial)
    (coupled_pure fun _ => rfl) ⟨?_, fun s t hst hs => hretried hst hs⟩
  intro s
  have hlist := hlist s
  change s.errors ⊆ (cursorOf (retried K.first deeper s.rest (listOrQuery K.first deeper s))).errors
  revert hlist
  cases listOrQuery K.first deeper s with
  | ok items t => exact fun h => h
  | error e t => exact fun h => List.Subset.trans h (hparen.keeps (t.moveTo s.rest))

/-! ## Heads -/

variable (hcall : K.CoupledAt (fun s => K.Opened s.rest) K.exprLists
  (callArguments K.first deeper) (callArguments K.second deeper'))

include hcall

omit hdeeper in
theorem coupled_takeNamed :
    K.Coupled K.exprs (takeNamed K.first deeper) (takeNamed K.second deeper') := by
  unfold takeNamed
  refine (K.coupled_takeName .name).bindSame fun name => ?_
  refine K.coupled_skipAllColumns.bindSame fun _ => ?_
  refine K.coupledAt_bind_eatIf (T := fun s => K.Opened s.rest) (fun _ => rfl)
    (fun hst _ hs hl => K.opened hst hs hl) ?_ (coupled_pure fun _ => rfl)
  refine hcall.bind fun args args' hargs => ?_
  refine (K.coupled_windowClauses hparen).bind fun more more' hmore => ?_
  refine coupled_pure fun hexact => ?_
  simp [hargs hexact, hmore hexact, Expr.renumber]

theorem coupledAt_takeWord (l : Lexeme) (ls : List Lexeme) :
    K.CoupledAt (fun s => s.rest = l :: ls) K.exprs (takeWord K.first deeper l ls)
      (takeWord K.second deeper' (l.renumber K.line) (K.lexemes ls)) := by
  have hnamed := K.coupled_takeNamed hparen hcall
  unfold takeWord
  rw [K.variableHere?_renumber, K.opensParen_lexemes]
  cases l.variableHere? with
  | some v =>
    exact ((K.coupled_advance 1).bindSame fun _ => coupled_pure fun _ => rfl).at
  | none =>
    simp only [Option.map_none, Lexeme.dispatch?_renumber]
    split
    · exact ((K.coupled_advance 1).bindSame fun _ => coupled_pure fun _ => rfl).at
    · exact (K.coupled_takeUnary hdeeper .not).at
    · exact (K.coupled_takeUnary hdeeper .existsRows).at
    · exact (K.coupled_takeCase hdeeper).at
    · next hl => exact (K.coupledAt_requireIif hl).bind fun _ _ _ => hnamed
    · have hcast : castKind? (l.renumber K.line) = castKind? l := rfl
      rw [hcast]
      split
      · next kind hkind =>
        by_cases hls : opensParen ls
        · rw [if_pos hls] at hkind
          exact K.coupledAt_takeCast hdeeper hkind hls
        · simp [hls] at hkind
      · rw [Lexeme.startsStatement_renumber]
        exact (coupled_ite (fun _ => K.coupled_unexpected) fun _ => hnamed).at

theorem coupled_takeHead :
    K.Coupled K.exprs (takeHead K.first deeper) (takeHead K.second deeper') := by
  have hliteral : ∀ e : Expr, e.renumber K.line = e →
      K.Coupled K.exprs (do Parser.advance 1; return e) (do Parser.advance 1; return e) :=
    fun e he => (K.coupled_advance 1).bindSame fun _ => coupled_pure fun _ => he.symm
  unfold takeHead
  refine K.coupledAt_bind_ahead fun ls => ?_
  cases ls with
  | nil => exact (K.coupled_expected .expression).at
  | cons l ls =>
    simp only [List.map_cons, Lexeme.token_renumber]
    split
    · exact (hliteral _ rfl).at
    · exact (hliteral _ rfl).at
    · exact (hliteral _ rfl).at
    · exact (hliteral _ rfl).at
    · exact (K.coupled_takeUnary hdeeper .minus).at
    · exact (K.coupled_takeUnary hdeeper .plus).at
    · exact (K.coupled_takeUnary hdeeper .bitNot).at
    · exact (hliteral _ rfl).at
    · exact (K.coupled_takeParen hdeeper hparen).at
    · exact K.coupledAt_takeWord hdeeper hparen hcall l ls
    · exact K.coupled_unexpected.at

theorem coupled_operatorChain (minPower : Nat) :
    K.Coupled K.exprs (operatorChain K.first deeper minPower)
      (operatorChain K.second deeper' minPower) := by
  unfold operatorChain
  refine (K.coupled_takeHead hdeeper hparen hcall).bind fun head head' hhead => ?_
  exact K.coupled_repeatWhile (K.coupled_infixRound hdeeper hparen minPower) hhead

end

end Coupling

end SqlLint
