import SqlLint.Proofs.Parse.Attempt
import SqlLint.Proofs.Parse.Fence

/-!
# Expressions before a semicolon

No reader of expressions passes a semicolon, nor does what it reads depend on what lies behind one,
as long as the parentheses before it are closed. The tests that look ahead do not get over the
semicolon either: each of them answers as if the stretch were all there is.

The places inside parentheses are where the count matters. The scan behind an opening parenthesis
passes everything up to the closing one, and the count says that the closing one is there. An
attempt that fails leaves the runs at the same place, so going back brings them to the same place
again; what it has recorded is the same in both runs.

## Main results

* `Fence.reads_parenFragment`, `Fence.reads_fragmentTail`: fragments
* `Fence.reads_callArguments`: the arguments of a call, read or scanned
* `Fence.reads_expr`: expressions
-/

namespace SqlLint

namespace Fence

open SqlLint.Parser

variable (f : Fence) {n : Nat} {X : List Lexeme}

/-! ## Tests on what lies ahead -/

@[simp] theorem opensParen_ahead (X : List Lexeme) : opensParen (f.ahead X) = opensParen X := by
  cases X with
  | nil => simp [opensParen]
  | cons l X => rfl

@[simp] theorem opensParen_ahead' (X : List Lexeme) : opensParen (f.ahead' X) = opensParen X := by
  cases X with
  | nil => simp [opensParen]
  | cons l X => rfl

@[simp] theorem opensQuery_ahead (X : List Lexeme) : opensQuery (f.ahead X) = opensQuery X := by
  cases X with
  | nil => simp [opensQuery]
  | cons l X => rfl

@[simp] theorem opensQuery_ahead' (X : List Lexeme) : opensQuery (f.ahead' X) = opensQuery X := by
  cases X with
  | nil => simp [opensQuery]
  | cons l X => rfl

theorem opensAllColumns_append (ls : List Lexeme) : ∀ X : List Lexeme,
    opensAllColumns (X ++ f.semicolon :: ls) = opensAllColumns X
  | [] => by cases ls <;> simp [opensAllColumns]
  | [_] => by simp [opensAllColumns]
  | _ :: _ :: _ => rfl

theorem atStart?_append (ls : List Lexeme) : ∀ X : List Lexeme,
    BinaryOp.atStart? (X ++ f.semicolon :: ls) = BinaryOp.atStart? X
  | [] => by simp [BinaryOp.atStart?, BinaryOp.ofMark?]
  | [l] => by
    simp only [List.cons_append, List.nil_append, BinaryOp.atStart?, List.head?_cons,
      Option.bind_some, dispatch?_semicolon, Option.bind_none, List.head?_nil]
  | _ :: _ :: _ => rfl

/-- The lexemes of an operator are no parentheses. -/
theorem exists_of_atStart? {op : BinaryOp} {width : Nat}
    (h : BinaryOp.atStart? X = some (op, width)) :
    ∃ ls Y, X = ls ++ Y ∧ width = ls.length ∧ ls ≠ [] ∧ ∀ n, openAfter n X = openAfter n Y := by
  cases BinaryOp.found_of_atStart? h with
  | @mark l Y m hm hop =>
    have hl : l.NoParen := by
      refine Lexeme.noParen_of_token (fun hleft => ?_) fun hright => ?_
      · cases hm.symm.trans hleft
        cases hop
      · cases hm.symm.trans hright
        cases hop
    exact ⟨[l], Y, rfl, rfl, by simp, fun _ => openAfter_other hl⟩
  | @word l Y k hl _ =>
    exact ⟨[l], Y, rfl, rfl, by simp, fun _ => openAfter_other (Lexeme.noParen_of_dispatch? hl)⟩
  | @negated l next Y k hl hnext _ =>
    refine ⟨[l, next], Y, rfl, rfl, by simp, fun _ => ?_⟩
    rw [openAfter_other (Lexeme.noParen_of_dispatch? hl),
      openAfter_other (Lexeme.noParen_of_dispatch? hnext)]

theorem reads_skipAllColumns : f.Reads n n skipAllColumns skipAllColumns := by
  refine reads_bind_ahead fun X hX => ?_
  rw [ahead, ahead', opensAllColumns_append, opensAllColumns_append]
  split
  · next hopens =>
    rcases X with _ | ⟨dot, _ | ⟨star, X⟩⟩
    · cases hopens
    · cases hopens
    · rw [opensAllColumns, Bool.and_eq_true] at hopens
      refine runs_advance [dot, star] rfl ?_
      rwa [openAfter_other (Lexeme.noParen_of_isMark hopens.1 (by decide) (by decide)),
        openAfter_other (Lexeme.noParen_of_isMark hopens.2 (by decide) (by decide))] at hX
  · exact runs_pure hX

/-! ## What is recorded of an attempt -/

variable {f} {s t : Cursor}

theorem At.note (h : f.At X s t) (e : SyntaxError) : f.At X (s.note e) (t.note e) := by
  cases e with
  | unsupported line g v => exact h.record _
  | _ => exact h

theorem At.noteIif (h : f.At X s t) (l : Lexeme) :
    f.At X (s.noteIif f.first l) (t.noteIif f.second l) := by
  rw [Cursor.noteIif, Cursor.noteIif, f.version]
  split
  · exact h
  · exact h.record _

variable (f)

section

variable {deeper deeper' : Nat → Parser Expr}
  (hdeeper : ∀ n power, f.Reads n n (deeper power) (deeper' power))

include hdeeper

/-! ## Casts -/

theorem reads_castInside (kind : CastKind) :
    f.Reads (n + 1) n (castInside f.first deeper kind) (castInside f.second deeper' kind) := by
  refine (hdeeper (n + 1) 0).bind fun operand => ?_
  refine (f.reads_expectKeyword .AS).bind fun _ => ?_
  refine f.reads_takeTypeRef.bind fun target => ?_
  exact f.reads_expect_right.bind fun _ => reads_pure _

theorem reads_convertInside (kind : CastKind) :
    f.Reads (n + 1) n (convertInside f.first deeper kind)
      (convertInside f.second deeper' kind) := by
  refine f.reads_takeTypeRef.bind fun target => ?_
  refine (f.reads_expect (by decide)).bind fun _ => ?_
  refine (hdeeper (n + 1) 0).bind fun operand => ?_
  refine reads_bind_eat (by decide) fun comma => reads_ite (fun _ => ?_) fun _ => ?_
  · refine (hdeeper (n + 1) 0).bind fun style => ?_
    exact f.reads_expect_right.bind fun _ => reads_pure _
  · exact f.reads_expect_right.bind fun _ => reads_pure _

theorem reads_takeCastInside : ∀ kind,
    f.Reads (n + 1) n (takeCastInside f.first deeper kind) (takeCastInside f.second deeper' kind)
  | .cast => f.reads_castInside hdeeper .cast
  | .tryCast => f.reads_castInside hdeeper .tryCast
  | .convert => f.reads_convertInside hdeeper .convert
  | .tryConvert => f.reads_convertInside hdeeper .tryConvert

/-- A cast passes at least its key word. -/
theorem runs_takeCast (kind : CastKind) {l : Lexeme} (hl : l.NoParen)
    (hX : openAfter n (l :: X) = 0) :
    f.Runs (l :: X) (takeCast f.first deeper kind) (takeCast f.second deeper' kind)
      fun _ Y => openAfter n Y = 0 ∧ Y <:+ X := by
  have hrequire : f.Runs (l :: X) (requireCast f.first kind) (requireCast f.second kind)
      fun _ Y => Y = l :: X := by
    rw [requireCast, requireCast]
    split
    · exact f.runs_require _ rfl
    · exact runs_pure rfl
  have hbehind : f.Reads n n
      (do expect f.first .leftParen; takeCastInside f.first deeper kind)
      (do expect f.second .leftParen; takeCastInside f.second deeper' kind) :=
    f.reads_expect_left.bind fun _ => f.reads_takeCastInside hdeeper kind
  rw [openAfter_other hl] at hX
  refine hrequire.bind fun _ Y _ hY => ?_
  subst hY
  exact runs_bind_advance_one ((hbehind X hX).mono fun _ Y hYX hY => ⟨hY, hYX⟩)

/-! ## Items of a scan -/

theorem runs_scanItem {l : Lexeme} (hl : l.NoParen) (hX : openAfter n (l :: X) = 0)
    (found : List Expr) :
    f.Runs (l :: X) (scanItem f.first deeper found) (scanItem f.second deeper' found)
      fun _ Y => openAfter n Y = 0 ∧ Y <:+ X := by
  intro hinside s t hst
  have hX' : openAfter n X = 0 := by rwa [openAfter_other hl] at hX
  have hpass : ∀ found : List Expr, ∀ u v, f.At (l :: X) u v → f.Meets (l :: X)
      (fun (_ : List Expr) Y => openAfter n Y = 0 ∧ Y <:+ X)
      (.ok found (u.moveTo (f.ahead X))) (.ok found (v.moveTo (f.ahead' X))) :=
    fun found u v huv => .ok (List.suffix_cons l X) ⟨hX', List.suffix_refl X⟩ (huv.moveTo X)
  have hrest : s.rest = l :: f.ahead X := hst.rest
  have hrest' : t.rest = l :: f.ahead' X := hst.rest'
  rw [scanItem_cons _ _ _ hrest, scanItem_cons _ _ _ hrest', opensParen_ahead, opensParen_ahead']
  split
  · exact hpass _ s t hst
  · split
    · split
      · exact hpass found _ _ (hst.noteIif l)
      · split
        · next kind _ =>
          obtain ⟨e, u, v, Y, hr, hr', hY, hQ, huv⟩ | ⟨e, u, v, Y, hr, hr', -, huv⟩ :=
            (f.runs_takeCast hdeeper kind hl hX hinside s t hst).both
          · rw [hr, hr']
            exact .ok hY hQ huv
          · rw [hr, hr']
            exact .ok (List.suffix_cons l X) ⟨hX', List.suffix_refl X⟩ ((huv.note e).moveTo X)
        · exact hpass found s t hst
    · exact hpass found s t hst

/-! ## Fragments -/

/-- A scan inside parentheses comes to the closing one: something lies ahead as long as one of them
is open. -/
theorem runs_parenRound {depth : Nat} (hX : openAfter (n + 1 + depth) X = 0) (found : List Expr) :
    f.Runs X (parenRound f.first deeper (depth, found)) (parenRound f.second deeper' (depth, found))
      fun o Y => match o with
        | none => openAfter n Y = 0
        | some state => openAfter (n + 1 + state.1) Y = 0 ∧ Y.length < X.length := by
  refine runs_bind_ahead ?_
  cases X with
  | nil => simp [openAfter] at hX
  | cons l X =>
    simp only [ahead_cons, ahead'_cons]
    split
    · next hleft =>
      rw [openAfter_left hleft] at hX
      exact runs_bind_advance_one (runs_pure ⟨hX, Nat.lt_succ_self _⟩)
    · next hleft =>
      split
      · next hright =>
        rw [openAfter_right hright] at hX
        refine runs_bind_advance_one ?_
        split
        · next hdepth =>
          subst hdepth
          exact runs_pure hX
        · next hdepth =>
          refine runs_pure ⟨?_, Nat.lt_succ_self _⟩
          rwa [Nat.add_sub_assoc (Nat.one_le_iff_ne_zero.2 hdepth)] at hX
      · next hright =>
        have hl : l.NoParen := ⟨eq_false_of_ne_true hleft, eq_false_of_ne_true hright⟩
        exact (f.runs_scanItem hdeeper hl hX found).bind fun found Y _ hY =>
          runs_pure ⟨hY.1, Nat.lt_succ_of_le hY.2.length_le⟩

theorem reads_parenFragment :
    f.Reads (n + 1) n (parenFragment f.first deeper) (parenFragment f.second deeper') := by
  intro X hX
  refine Runs.bind (Q := fun _ Y => openAfter n Y = 0)
    (runs_repeatWhile (I := fun state Y => openAfter (n + 1 + state.1) Y = 0) hX ?_)
    fun _ Y _ hY => runs_pure hY
  rintro ⟨depth, found⟩ Y hY
  exact (f.runs_parenRound hdeeper hY found).mono fun o Z _ hZ => by
    cases o <;> exact hZ

/-- Outside parentheses a scan stops at the semicolon at the latest. -/
theorem runs_scanRound (inUpdate : Bool) (state : Scanning) (hX : openAfter state.depth X = 0) :
    f.Runs X (scanRound f.first deeper inUpdate state) (scanRound f.second deeper' inUpdate state)
      fun o Y => match o with
        | none => openAfter 0 Y = 0
        | some state => openAfter state.depth Y = 0 ∧ Y.length < X.length := by
  refine runs_bind_ahead ?_
  cases X with
  | nil =>
    have hdepth : state.depth = 0 := hX
    have hends : state.endsAt inUpdate f.semicolon = true := by
      simp [Scanning.endsAt, hdepth]
    simp only [ahead_nil, ahead'_nil, hends]
    exact runs_pure rfl
  | cons l X =>
    simp only [ahead_cons, ahead'_cons]
    split
    · exact runs_pure (openAfter_zero hX)
    · split
      · next hleft =>
        rw [openAfter_left hleft] at hX
        exact runs_bind_advance_one (runs_pure ⟨hX, Nat.lt_succ_self _⟩)
      · next hleft =>
        split
        · next hright =>
          rw [openAfter_right hright] at hX
          exact runs_bind_advance_one (runs_pure ⟨hX, Nat.lt_succ_self _⟩)
        · next hright =>
          have hl : l.NoParen := ⟨eq_false_of_ne_true hleft, eq_false_of_ne_true hright⟩
          have hpass : openAfter state.depth X = 0 := by rwa [openAfter_other hl] at hX
          split
          · exact runs_bind_advance_one (runs_pure ⟨hpass, Nat.lt_succ_self _⟩)
          · split
            · exact runs_bind_advance_one (runs_pure ⟨hpass, Nat.lt_succ_self _⟩)
            · exact (f.runs_scanItem hdeeper hl hX _).bind fun found Y _ hY =>
                runs_pure ⟨hY.1, Nat.lt_succ_of_le hY.2.length_le⟩

theorem reads_fragmentTail (inUpdate : Bool) :
    f.Reads 0 0 (fragmentTail f.first deeper inUpdate)
      (fragmentTail f.second deeper' inUpdate) := by
  intro X hX
  refine Runs.bind (Q := fun _ Y => openAfter 0 Y = 0)
    (runs_repeatWhile (I := fun state Y => openAfter state.depth Y = 0) hX fun state Y hY => ?_)
    fun _ Y _ hY => runs_pure hY
  exact (f.runs_scanRound hdeeper inUpdate state hY).mono fun o Z _ hZ => by
    cases o <;> exact hZ

/-! ## Lists, calls and `CASE` -/

theorem reads_listOrQuery :
    f.Reads (n + 1) n (listOrQuery f.first deeper) (listOrQuery f.second deeper') := by
  refine reads_bind_ahead fun X hX => ?_
  rw [opensQuery_ahead, opensQuery_ahead']
  refine reads_ite (fun _ => f.reads_parenFragment hdeeper) (fun _ => ?_) X hX
  refine (f.reads_commaSeparated (hdeeper (n + 1) 0)).bind fun items => ?_
  exact f.reads_expect_right.bind fun _ => reads_pure items

/-- Arguments that cannot be read are scanned in both runs, from the same place. -/
theorem reads_callArguments :
    f.Reads (n + 1) n (callArguments f.first deeper) (callArguments f.second deeper') := by
  rw [callArguments_eq, callArguments_eq]
  refine reads_bind_eat_right (reads_pure []) fun X hX hinside s t hst => ?_
  change f.Meets X _ (retried f.first deeper s.rest (listOrQuery f.first deeper s))
    (retried f.second deeper' t.rest (listOrQuery f.second deeper' t))
  rw [hst.rest, hst.rest']
  obtain ⟨es, u, v, Y, hr, hr', hY, hQ, huv⟩ | ⟨e, u, v, Y, hr, hr', -, huv⟩ :=
    (f.reads_listOrQuery hdeeper X hX hinside s t hst).both
  · rw [hr, hr']
    exact .ok hY hQ huv
  · rw [hr, hr']
    exact f.reads_parenFragment hdeeper X hX hinside _ _ (huv.moveTo X)

theorem reads_windowClauses :
    f.Reads n n (windowClauses f.first deeper) (windowClauses f.second deeper') := by
  have hwithin : f.Reads n n (withinGroup f.first deeper) (withinGroup f.second deeper') := by
    refine reads_bind_eatKeyword .WITHIN fun within =>
      reads_ite (fun _ => ?_) fun _ => reads_pure []
    refine (f.reads_expectKeyword .GROUP).bind fun _ => ?_
    exact f.reads_expect_left.bind fun _ => f.reads_parenFragment hdeeper
  have hover : f.Reads n n (overWindow f.first deeper) (overWindow f.second deeper') := by
    refine reads_bind_eatKeyword .OVER fun window => reads_ite (fun _ => ?_) fun _ => reads_pure []
    exact f.reads_expect_left.bind fun _ => f.reads_parenFragment hdeeper
  exact hwithin.bind fun _ => hover.bind fun _ => reads_pure _

theorem reads_takeNamed : f.Reads n n (takeNamed f.first deeper) (takeNamed f.second deeper') := by
  refine (f.reads_takeName .name).bind fun name => ?_
  refine f.reads_skipAllColumns.bind fun _ => ?_
  refine reads_bind_eat_left ?_ (reads_pure _)
  refine (f.reads_callArguments hdeeper).bind fun args => ?_
  exact (f.reads_windowClauses hdeeper).bind fun _ => reads_pure _

theorem reads_whenLoop (items : List Expr) :
    f.Reads n n (repeatWhile (whenRound f.first deeper) items)
      (repeatWhile (whenRound f.second deeper') items) := by
  intro X hX
  refine runs_repeatWhile (I := fun _ Y => openAfter n Y = 0) hX fun items Y hY => ?_
  -- A round that goes on has passed `WHEN`.
  refine (runs_eatIf (Q := fun b Z => openAfter n Z = 0 ∧ (b → Z.length < Y.length)) (by simp)
    ⟨hY, by simp⟩ fun l Z hYZ hl => ?_).bind fun b Z hZY hZ => ?_
  · rw [hYZ, openAfter_other (Lexeme.noParen_of_isKeyword hl)] at hY
    exact ⟨hY, fun _ => by simp [hYZ]⟩
  · cases b with
    | false => exact runs_pure hZ.1
    | true =>
      refine (hdeeper n 0 Z hZ.1).bind fun condition U hU hUopen => ?_
      refine (f.reads_expectKeyword .THEN U hUopen).bind fun _ V hV hVopen => ?_
      refine (hdeeper n 0 V hVopen).bind fun value W hW hWopen => runs_pure ⟨hWopen, ?_⟩
      have hshort := hZ.2 rfl
      have hlength := ((hW.trans hV).trans hU).length_le
      omega

theorem reads_takeCase : f.Reads n n (takeCase f.first deeper) (takeCase f.second deeper') := by
  have hinput : f.Reads n n (caseInput deeper) (caseInput deeper') :=
    reads_bind_atNext fun branch => reads_ite (fun _ => reads_pure []) fun _ =>
      (hdeeper n 0).bind fun e => reads_pure [e]
  have helse : f.Reads n n (caseElse deeper) (caseElse deeper') :=
    reads_bind_eatKeyword .ELSE fun otherwise => reads_ite
      (fun _ => (hdeeper n 0).bind fun e => reads_pure [e]) fun _ => reads_pure []
  refine (f.reads_expectKeyword .CASE).bind fun _ => ?_
  refine hinput.bind fun input => (f.reads_whenLoop hdeeper input).bind fun items => ?_
  refine helse.bind fun otherwise => ?_
  exact (f.reads_expectKeyword .END).bind fun _ => reads_pure _

/-! ## Heads -/

theorem runs_takeUnary {l : Lexeme} (op : UnaryOp) (hl : l.NoParen)
    (hX : openAfter n (l :: X) = 0) :
    f.Runs (l :: X) (takeUnary deeper op) (takeUnary deeper' op) fun _ Y => openAfter n Y = 0 :=
  runs_skip hl hX ((hdeeper n op.power).bind fun _ => reads_pure _)

theorem runs_takeParen {l : Lexeme} (hl : l.isMark .leftParen) (hX : openAfter n (l :: X) = 0) :
    f.Runs (l :: X) (takeParen f.first deeper) (takeParen f.second deeper')
      fun _ Y => openAfter n Y = 0 := by
  rw [openAfter_left hl] at hX
  refine runs_bind_advance_one (runs_bind_ahead ?_)
  rw [opensQuery_ahead, opensQuery_ahead']
  refine reads_ite (fun _ => ?_) (fun _ => ?_) X hX
  · exact (f.reads_parenFragment hdeeper).bind fun items => reads_pure _
  · refine (hdeeper (n + 1) 0).bind fun inner => ?_
    refine reads_bind_eat (by decide) fun comma => reads_ite (fun _ => ?_) fun _ => ?_
    · exact (f.reads_listOrQuery hdeeper).bind fun items => reads_pure _
    · exact f.reads_expect_right.bind fun _ => reads_pure _

theorem runs_takeWord {l : Lexeme} {text : String} {quote : Option Quote}
    (hl : l.token = .word text quote) (hX : openAfter n (l :: X) = 0) :
    f.Runs (l :: X) (takeWord f.first deeper l (f.ahead X))
      (takeWord f.second deeper' l (f.ahead' X)) fun _ Y => openAfter n Y = 0 := by
  have hplain := Lexeme.noParen_of_word hl
  have hnamed := f.reads_takeNamed (n := n) hdeeper
  rw [takeWord, takeWord, opensParen_ahead, opensParen_ahead']
  split
  · exact runs_skip hplain hX (reads_pure _)
  · split
    · exact runs_skip hplain hX (reads_pure _)
    · exact f.runs_takeUnary hdeeper .not hplain hX
    · exact f.runs_takeUnary hdeeper .existsRows hplain hX
    · exact f.reads_takeCase hdeeper _ hX
    · rw [requireIif, requireIif, opensParen_ahead, opensParen_ahead']
      refine Reads.bind (reads_ite (fun _ => ?_) fun _ => ?_) (fun _ => hnamed) _ hX
      · exact f.reads_require .iif
      · exact reads_pure ()
    · split
      · exact (f.runs_takeCast hdeeper _ hplain hX).mono fun _ _ _ hY => hY.1
      · exact reads_ite (fun _ => f.reads_unexpected) (fun _ => hnamed) _ hX

theorem reads_takeHead : f.Reads n n (takeHead f.first deeper) (takeHead f.second deeper') := by
  refine reads_bind_ahead fun X hX => ?_
  cases X with
  | nil => simpa using f.runs_unexpected
  | cons l X =>
    have hplain : l.token ≠ .mark .leftParen → l.token ≠ .mark .rightParen → l.NoParen :=
      Lexeme.noParen_of_token
    have hliteral : ∀ e : Expr, l.NoParen → f.Runs (l :: X) (do Parser.advance 1; return e)
        (do Parser.advance 1; return e) fun _ Y => openAfter n Y = 0 :=
      fun e hl => runs_skip hl hX (reads_pure e)
    simp only [ahead_cons, ahead'_cons]
    split
    · next h => exact hliteral _ (hplain (by simp [h]) (by simp [h]))
    · next h => exact hliteral _ (hplain (by simp [h]) (by simp [h]))
    · next h => exact hliteral _ (hplain (by simp [h]) (by simp [h]))
    · next h => exact hliteral _ (hplain (by simp [h]) (by simp [h]))
    · next h => exact f.runs_takeUnary hdeeper .minus (hplain (by simp [h]) (by simp [h])) hX
    · next h => exact f.runs_takeUnary hdeeper .plus (hplain (by simp [h]) (by simp [h])) hX
    · next h => exact f.runs_takeUnary hdeeper .bitNot (hplain (by simp [h]) (by simp [h])) hX
    · next h => exact hliteral _ (hplain (by simp [h]) (by simp [h]))
    · next h => exact f.runs_takeParen hdeeper (by simp [Lexeme.isMark, h]) hX
    · next h => exact f.runs_takeWord hdeeper h hX
    · exact f.runs_unexpected

/-! ## Infix operators -/

theorem reads_takeRight (op : BinaryOp) :
    f.Reads n n (takeRight f.first deeper op) (takeRight f.second deeper' op) := by
  rw [takeRight.eq_def, takeRight.eq_def]
  split
  · refine reads_bind_eatKeyword .NOT fun _ => ?_
    exact (f.reads_expectKeyword .NULL).bind fun _ => reads_pure _
  · refine f.reads_expect_left.bind fun _ => ?_
    exact (f.reads_listOrQuery hdeeper).bind fun items => reads_pure _
  · refine (hdeeper n _).bind fun low => (f.reads_expectKeyword .AND).bind fun _ => ?_
    exact (hdeeper n _).bind fun high => reads_pure _
  · refine (hdeeper n _).bind fun pattern => reads_bind_eatKeyword .ESCAPE fun _ => ?_
    exact reads_ite (fun _ => (hdeeper n _).bind fun escape => reads_pure _) fun _ => reads_pure _
  · exact hdeeper n _

/-- There is no collation before the semicolon, so a round that goes on passes an operator. -/
theorem runs_infixRound (minPower : Nat) (left : Expr) (hX : openAfter n X = 0) :
    f.Runs X (infixRound f.first deeper minPower left) (infixRound f.second deeper' minPower left)
      fun o Y => openAfter n Y = 0 ∧ (o.isSome → Y.length < X.length) := by
  intro hinside
  have hcollate : ∀ l Y, X = l :: Y → ¬l.isKeyword .COLLATE := by
    intro l Y hXY hl
    refine f.plain l (hinside.subset (hXY ▸ List.mem_cons_self)) ?_
    rw [show l.keyword? = some .COLLATE from of_decide_eq_true hl]
    rfl
  revert hinside
  refine (runs_eatIf (Q := fun b Y => b = false ∧ Y = X) (by simp) ⟨rfl, rfl⟩
    fun l Y hXY hl => absurd hl (hcollate l Y hXY)).bind ?_
  rintro b Y - ⟨rfl, rfl⟩
  refine runs_bind_ahead ?_
  rw [ahead, ahead', atStart?_append, atStart?_append]
  split
  · exact runs_pure ⟨hX, by simp⟩
  · next op width hop =>
    split
    · exact runs_pure ⟨hX, by simp⟩
    · obtain ⟨ls, Z, rfl, hwidth, hls, hopen⟩ := exists_of_atStart? hop
      rw [hopen] at hX
      refine runs_bind_advance ls hwidth ?_
      refine (f.reads_takeRight hdeeper op Z hX).bind fun right W hWZ hW => ?_
      refine runs_pure ⟨hW, fun _ => ?_⟩
      have hlength := hWZ.length_le
      have hpos := List.length_pos_iff.2 hls
      rw [List.length_append]
      omega

theorem reads_operatorChain (minPower : Nat) :
    f.Reads n n (operatorChain f.first deeper minPower)
      (operatorChain f.second deeper' minPower) := by
  refine (f.reads_takeHead hdeeper).bind fun head X hX => ?_
  refine runs_repeatWhile (I := fun _ Y => openAfter n Y = 0) hX fun left Y hY => ?_
  exact (f.runs_infixRound hdeeper minPower left hY).mono fun o Z _ hZ => by
    cases o with
    | none => exact hZ.1
    | some e => exact ⟨hZ.1, hZ.2 rfl⟩

end

/-- Expressions stay before the semicolon. -/
theorem reads_expr : ∀ levels n minPower,
    f.Reads n n (expr f.first levels minPower) (expr f.second levels minPower)
  | 0, _, _ => fun _ _ => f.runs_tooDeep
  | levels + 1, _, minPower => f.reads_operatorChain (reads_expr levels) minPower

end Fence

end SqlLint
