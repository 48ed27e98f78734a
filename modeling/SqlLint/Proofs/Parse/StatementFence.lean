import SqlLint.Proofs.Parse.ExprFence
import SqlLint.Proofs.Parse.Parenthesis
import SqlLint.Proofs.Parse.StatementCoupling

/-!
# Statements before a semicolon

A statement stays before a semicolon if it is not one of those that hold other statements. Those are
kept out by the key words that a `Fence` excludes: `BEGIN`, `IF` and `WHILE` read on behind a
semicolon, and so does the body of what `CREATE` and `ALTER` define.

Statements are chosen by the full upper case of their first word, while the excluded words are key
words by their ASCII letters. A word can therefore be read as one of these statements without being
excluded. `BEGIN`, `IF` and `WHILE` then fail at their own key word, since it is asked for by its
ASCII letters. `CREATE` and `ALTER` do not ask, but for them the two tests agree: every letter
beyond ASCII whose upper case is ASCII gives an `I`, an `S` or an `F`.

## Main results

* `Text.exists_mem_upperChar`, `Lexeme.keyword?_of_dispatch?`, `Lexeme.dispatch?_of_keyword?`:
  where the two tests for key words agree
* `Fence.runs_statement`: statements
-/

namespace SqlLint

/-! ## Key words by their full upper case -/

namespace Text

/-- The letters that letters beyond ASCII can bring into a word of ASCII letters. -/
def foldedLetters : List Char := ['F', 'I', 'S']

/-- The code point is beyond ASCII, or that of a letter that can come from beyond it. -/
def IsForeign (n : Nat) : Prop := 128 ≤ n ∨ n ∈ foldedLetters.map Char.toNat

instance : DecidablePred IsForeign := fun n =>
  inferInstanceAs (Decidable (128 ≤ n ∨ n ∈ foldedLetters.map Char.toNat))

theorem upperExpansions_foreign : ∀ entry ∈ upperExpansions, ∃ n ∈ entry.2,
    n.isValidChar ∧ IsForeign n := by
  decide +kernel

theorem upperRuns_foreign : ∀ run ∈ upperRuns,
    (128 ≤ run.image ∨ run.first = run.last ∧ IsForeign run.image) ∧
      (run.image + (run.last - run.first) < 0xd800 ∨
        0xdfff < run.image ∧ run.image + (run.last - run.first) < 0x110000) := by
  decide +kernel

/-- The upper case of a character beyond ASCII has a character beyond ASCII or one of three
letters. -/
theorem exists_mem_upperChar {c : Char} (hc : 128 ≤ c.toNat) :
    ∃ d ∈ upperChar c, IsForeign d.toNat := by
  have htoNat : ∀ n : Nat, n.isValidChar → (Char.ofNat n).toNat = n := by
    intro n hn
    rw [Char.ofNat, dif_pos hn]
    rfl
  rw [upperChar, if_neg (by omega)]
  split
  · next image himage =>
    obtain ⟨before, after, hentry, -⟩ := List.lookup_eq_some_iff.1 himage
    have hmem : (c.toNat, image) ∈ upperExpansions := by simp [hentry]
    obtain ⟨n, hn, hvalid, hforeign⟩ := upperExpansions_foreign _ hmem
    exact ⟨Char.ofNat n, List.mem_map_of_mem hn, by rwa [htoNat n hvalid]⟩
  · refine ⟨_, List.mem_singleton_self _, ?_⟩
    rw [CaseRun.map]
    split
    · next run hrun =>
      have hcovers := List.find?_some hrun
      obtain ⟨himage, hvalid⟩ := upperRuns_foreign run (List.mem_of_find?_eq_some hrun)
      simp only [CaseRun.covers, Bool.and_eq_true, decide_eq_true_eq] at hcovers
      rw [htoNat _ (by simp only [Nat.isValidChar]; omega)]
      rcases himage with himage | ⟨hone, hforeign⟩
      · exact .inl (by omega)
      · rwa [show c.toNat - run.first = 0 by omega, Nat.add_zero]
    · exact .inl hc

end Text

theorem Keyword.ascii_spelling (k : Keyword) : ∀ c ∈ k.spelling, c.toNat < 128 := by
  have hall : k.spelling.all fun c => c.toNat < 128 := by
    cases k <;> decide
  simpa using hall

namespace Lexeme

/-- A word whose full upper case is a key word without the letters that can come from beyond ASCII
is that key word. -/
theorem keyword?_of_dispatch? {l : Lexeme} {k : Keyword} (h : l.dispatch? = some k)
    (hk : k.spelling.all fun c => ¬Text.IsForeign c.toNat) : l.keyword? = some k := by
  obtain ⟨text, htext, hspelling⟩ := Option.bind_eq_some_iff.1 h
  have hascii : l.IsAscii := by
    intro text' htext' c hc
    obtain rfl : text = text' := Option.some.inj (htext.symm.trans htext')
    refine Nat.lt_of_not_le fun hforeign => ?_
    obtain ⟨d, hd, hd'⟩ := Text.exists_mem_upperChar hforeign
    refine of_decide_eq_true (List.all_eq_true.1 hk d ?_) hd'
    rw [Keyword.spelling_of_ofSpelling? hspelling]
    exact List.mem_flatMap.2 ⟨c, hc, hd⟩
  rw [← hascii.dispatch?_eq, h]

/-- A key word by its ASCII letters has no other letters. -/
theorem isAscii_of_keyword? {l : Lexeme} {k : Keyword} (h : l.keyword? = some k) : l.IsAscii := by
  obtain ⟨text, htext, hspelling⟩ := Option.bind_eq_some_iff.1 h
  intro text' htext' c hc
  obtain rfl : text = text' := Option.some.inj (htext.symm.trans htext')
  have hupper := k.ascii_spelling c.toUpper (by
    rw [Keyword.spelling_of_ofSpelling? hspelling]
    exact List.mem_map_of_mem hc)
  by_cases hlower : 'a'.val ≤ c.val ∧ c.val ≤ 'z'.val
  · exact Nat.lt_of_le_of_lt (UInt32.le_iff_toNat_le.1 hlower.2) (by decide)
  · have hsame : c.toUpper = c := dif_neg hlower
    rwa [hsame] at hupper

/-- A key word by its ASCII letters is the same key word by its full upper case. -/
theorem dispatch?_of_keyword? {l : Lexeme} {k : Keyword} (h : l.keyword? = some k) :
    l.dispatch? = some k := by
  rw [(isAscii_of_keyword? h).dispatch?_eq, h]

end Lexeme

namespace Parser

/-- Whether a semicolon and a number come first. -/
def opensNumber : List Lexeme → Bool
  | l :: next :: _ => l.isMark .semicolon && next.isNumber
  | _ => false

theorem skipProcedureNumber_eq :
    skipProcedureNumber = (do if opensNumber (← ahead) then advance 2) := by
  rw [skipProcedureNumber]
  congr 1
  funext ls
  rcases ls with _ | ⟨l, _ | ⟨next, ls⟩⟩ <;> rfl

end Parser

namespace Fence

open SqlLint.Parser

variable (f : Fence) {n : Nat} {X : List Lexeme}

theorem closed_of_suffix (hX : X <:+ f.inside) : openAfter 0 X = 0 := by
  obtain ⟨before, hbefore⟩ := hX
  have hclosed := f.closed
  rw [← hbefore, openAfter_append] at hclosed
  exact openAfter_zero hclosed

theorem not_isKeyword {l : Lexeme} (hX : l :: X <:+ f.inside) {k : Keyword} (hk : k.reachesOut) :
    ¬l.isKeyword k := by
  intro hl
  refine f.plain l (hX.subset List.mem_cons_self) ?_
  rw [show l.keyword? = some k from of_decide_eq_true hl]
  exact hk

/-! ## Tests on what lies ahead -/

theorem assigned?_append (ls : List Lexeme) : ∀ X : List Lexeme,
    assigned? (X ++ f.semicolon :: ls) = assigned? X
  | [] => by cases ls <;> simp [assigned?]
  | [_] => by simp [assigned?]
  | _ :: _ :: _ => rfl

/-- A semicolon and a number do not get over the semicolon of the fence, behind which no number
comes first. -/
theorem opensNumber_append {ls : List Lexeme} (hls : ls.head?.any Lexeme.isNumber = false) :
    ∀ X : List Lexeme, opensNumber (X ++ f.semicolon :: ls) = opensNumber X
  | [] => by
    cases ls with
    | nil => rfl
    | cons l ls => simpa [opensNumber] using hls
  | [_] => by simp [opensNumber, Lexeme.isNumber, Token.isNumber]
  | _ :: _ :: _ => rfl

theorem endsStatement_append (ls : List Lexeme) : ∀ X : List Lexeme,
    endsStatement (X ++ f.semicolon :: ls) = endsStatement X
  | [] => by simp [endsStatement]
  | _ :: _ => rfl

theorem switch?_append (ls : List Lexeme) : ∀ X : List Lexeme,
    switch? (X ++ f.semicolon :: ls) = switch? X
  | [] => by simp [switch?]
  | _ :: _ => rfl

theorem getElem?_one_ahead (l : Lexeme) (X : List Lexeme) :
    (f.ahead (l :: X))[1]? = some (f.next X) := by
  cases X <;> rfl

theorem getElem?_one_ahead' (l : Lexeme) (X : List Lexeme) :
    (f.ahead' (l :: X))[1]? = some (f.next X) := by
  cases X <;> rfl

/-- The names of options stand before the semicolon. -/
theorem optionNames_ahead : ∀ X : List Lexeme, ∃ names Y, Y <:+ X ∧
    optionNames (f.ahead X) = (names, f.ahead Y) ∧ optionNames (f.ahead' X) = (names, f.ahead' Y)
  | [] => ⟨[], [], List.suffix_refl _, by simp [optionNames, Token.plainWord?],
      by simp [optionNames, Token.plainWord?]⟩
  | l :: X => by
    simp only [ahead_cons, ahead'_cons]
    cases hword : l.token.plainWord? with
    | none =>
      exact ⟨[], l :: X, List.suffix_refl _, by simp [optionNames, hword],
        by simp [optionNames, hword]⟩
    | some text =>
      by_cases hswitch : l.isKeyword .ON || l.isKeyword .OFF
      · exact ⟨[], l :: X, List.suffix_refl _, by simp [optionNames, hword, hswitch],
          by simp [optionNames, hword, hswitch]⟩
      · cases X with
        | nil =>
          exact ⟨[Text.upperCase text], [], List.suffix_cons l [],
            by simp [optionNames, hword, hswitch], by simp [optionNames, hword, hswitch]⟩
        | cons c X =>
          by_cases hcomma : c.isMark .comma
          · obtain ⟨names, Y, hY, hfirst, hsecond⟩ := optionNames_ahead X
            exact ⟨Text.upperCase text :: names, Y, hY.trans ⟨[l, c], rfl⟩,
              by simp [optionNames, hword, hswitch, hcomma, hfirst],
              by simp [optionNames, hword, hswitch, hcomma, hsecond]⟩
          · exact ⟨[Text.upperCase text], c :: X, List.suffix_cons l _,
              by simp [optionNames, hword, hswitch, hcomma],
              by simp [optionNames, hword, hswitch, hcomma]⟩

/-! ## Fragments -/

section

variable {expr expr' : Nat → Parser Expr}
  (hexpr : ∀ n power, f.Reads n n (expr power) (expr' power))

include hexpr

/-- The first lexeme of a fragment is passed whatever it is; the parentheses that are open behind
it are closed again in any case. -/
theorem runs_fragment {l : Lexeme} :
    f.Runs (l :: X) (fragment f.first expr) (fragment f.second expr')
      fun _ Y => openAfter 0 Y = 0 := by
  intro hinside
  have hX := f.closed_of_suffix ((List.suffix_cons l X).trans hinside)
  revert hinside
  refine runs_bind_ahead (runs_bind_advance_one ?_)
  exact ((f.reads_fragmentTail hexpr _).bind fun items => reads_pure _) X hX

theorem runs_otherStatement {l : Lexeme} :
    f.Runs (l :: X) (otherStatement f.first expr) (otherStatement f.second expr')
      fun _ Y => openAfter 0 Y = 0 :=
  (f.runs_fragment hexpr).bind fun _ _ _ hY => runs_pure hY

/-! ## Declarations and assignments -/

theorem reads_takeDeclaration :
    f.Reads 0 0 (takeDeclaration f.first expr) (takeDeclaration f.second expr') := by
  refine f.reads_takeVariable.bind fun name => reads_bind_eatKeyword .AS fun _ => ?_
  refine reads_bind_eatKeyword .TABLE fun table => reads_ite (fun _ => ?_) fun _ => ?_
  · refine f.reads_expect_left.bind fun _ => ?_
    exact (f.reads_parenFragment hexpr).bind fun _ => reads_pure _
  · refine reads_bind_eatKeyword .CURSOR fun cursor => reads_ite (fun _ => reads_pure _) fun _ => ?_
    refine f.reads_takeTypeRef.bind fun type X hX => ?_
    refine runs_bind_atNext ?_
    split
    · next heq =>
      cases X with
      | nil => simp at heq
      | cons l X =>
        refine (f.runs_require .declareInitializer (Q := fun _ Y => Y = l :: X) rfl).bind ?_
        rintro - Y - rfl
        exact runs_skip (Lexeme.noParen_of_isMark heq (by decide) (by decide)) hX
          ((hexpr 0 0).bind fun value => reads_pure _)
    · exact runs_pure hX

theorem runs_takeDeclare {l : Lexeme} :
    f.Runs (l :: X) (takeDeclare f.first expr) (takeDeclare f.second expr')
      fun _ Y => openAfter 0 Y = 0 := by
  intro hinside
  have hX := f.closed_of_suffix hinside
  revert hinside
  refine runs_bind_ahead ?_
  rw [getElem?_one_ahead, getElem?_one_ahead']
  split
  · exact f.runs_otherStatement hexpr
  · refine Reads.bind (f.reads_expectKeyword .DECLARE) (fun _ => ?_) _ hX
    exact (f.reads_commaSeparated (f.reads_takeDeclaration hexpr)).bind fun items => reads_pure _

theorem runs_takeSetOption {l : Lexeme} :
    f.Runs (l :: X) (takeSetOption f.first expr) (takeSetOption f.second expr')
      fun _ Y => openAfter 0 Y = 0 := by
  intro hinside
  rw [takeSetOption_eq, takeSetOption_eq]
  obtain ⟨names, Y, hY, hfirst, hsecond⟩ := f.optionNames_ahead X
  have hY' : Y <:+ l :: X := hY.trans (List.suffix_cons l X)
  revert hinside
  refine runs_bind_ahead ?_
  simp only [ahead_cons, ahead'_cons, hfirst, hsecond]
  split
  · rw [ahead, ahead', switch?_append, switch?_append]
    split
    · next on hswitch =>
      split
      · exact f.runs_otherStatement hexpr
      · cases Y with
        | nil => cases hswitch
        | cons k Y =>
          intro hinside
          have hclosed := f.closed_of_suffix (((List.suffix_cons k Y).trans hY').trans hinside)
          exact ((runs_moveTo (Q := fun _ Z => openAfter 0 Z = 0)
            ((List.suffix_cons k Y).trans hY') hclosed).bind fun _ _ _ hZ => runs_pure hZ) hinside
    · exact f.runs_otherStatement hexpr
  · exact f.runs_expected _

omit hexpr in
theorem reads_takeAssignment : f.Reads 0 0 (takeAssignment f.first) (takeAssignment f.second) := by
  refine reads_bind_ahead fun X hX => ?_
  cases X with
  | nil => simpa [BinaryOp.ofCompound?] using f.runs_expected _
  | cons l X =>
    simp only [ahead_cons, ahead'_cons]
    split
    · next heq =>
      exact runs_skip (Lexeme.noParen_of_isMark heq (by decide) (by decide)) hX (reads_pure none)
    · split
      · next op hop =>
        rw [head?_ahead, head?_ahead', Option.any_some]
        split
        · next heq =>
          cases X with
          | nil => simp at heq
          | cons k X =>
            have hl : l.NoParen := Lexeme.noParen_of_token
              (fun hleft => by simp [hleft, BinaryOp.ofCompound?] at hop)
              fun hright => by simp [hright, BinaryOp.ofCompound?] at hop
            have hk : k.NoParen := Lexeme.noParen_of_isMark heq (by decide) (by decide)
            rw [openAfter_other hl, openAfter_other hk] at hX
            have hrequire := f.runs_require .compoundAssignment
              (Q := fun _ Y => Y = l :: k :: X) rfl
            refine hrequire.bind ?_
            rintro - Y - rfl
            exact runs_bind_advance [l, k] rfl (runs_pure hX)
        · exact f.runs_expected _
      · exact f.runs_expected _

theorem runs_takeSet {l : Lexeme} (hl : l.NoParen) :
    f.Runs (l :: X) (takeSet f.first expr) (takeSet f.second expr')
      fun _ Y => openAfter 0 Y = 0 := by
  intro hinside
  have hX := f.closed_of_suffix hinside
  revert hinside
  refine runs_bind_ahead ?_
  rw [getElem?_one_ahead, getElem?_one_ahead', Option.bind_some]
  split
  · exact f.runs_takeSetOption hexpr
  · next target htarget =>
    cases X with
    | nil => simp at htarget
    | cons k X =>
      have hk : k.NoParen := Lexeme.noParen_of_variableHere? htarget
      rw [openAfter_other hl, openAfter_other hk] at hX
      refine runs_bind_advance [l, k] rfl ?_
      refine (f.reads_takeAssignment X hX).bind fun op Y _ hY => ?_
      refine runs_bind_atNext ?_
      split
      · next hcursor =>
        cases Y with
        | nil => simp at hcursor
        | cons c Y => exact (f.runs_fragment hexpr).bind fun _ _ _ hZ => runs_pure hZ
      · exact ((hexpr 0 0).bind fun value => reads_pure _) Y hY

/-! ## Calls -/

omit hexpr in
theorem reads_takeAssigned : f.Reads 0 0 takeAssigned takeAssigned := by
  refine reads_bind_ahead fun X hX => ?_
  rw [ahead, ahead', assigned?_append, assigned?_append]
  split
  · next v hv =>
    rcases X with _ | ⟨l, _ | ⟨k, X⟩⟩
    · cases hv
    · cases hv
    · rw [assigned?, Option.ite_none_right_eq_some] at hv
      rw [openAfter_other (Lexeme.noParen_of_variableHere? hv.2),
        openAfter_other (Lexeme.noParen_of_isMark hv.1 (by decide) (by decide))] at hX
      exact runs_bind_advance [l, k] rfl (runs_pure hX)
  · exact runs_pure hX

omit hexpr in
theorem reads_skipProcedureNumber : f.Reads 0 0 skipProcedureNumber skipProcedureNumber := by
  rw [skipProcedureNumber_eq]
  refine reads_bind_ahead fun X hX => ?_
  rw [ahead, ahead', f.opensNumber_append f.noNumber, f.opensNumber_append f.noNumber']
  split
  · next hopens =>
    rcases X with _ | ⟨l, _ | ⟨k, X⟩⟩
    · cases hopens
    · cases hopens
    · rw [opensNumber, Bool.and_eq_true] at hopens
      have hk : k.NoParen := Lexeme.noParen_of_token
        (fun hleft => by simp [Lexeme.isNumber, hleft, Token.isNumber] at hopens)
        fun hright => by simp [Lexeme.isNumber, hright, Token.isNumber] at hopens
      rw [openAfter_other (Lexeme.noParen_of_isMark hopens.1 (by decide) (by decide)),
        openAfter_other hk] at hX
      exact runs_advance [l, k] rfl hX
  · exact runs_pure hX

theorem reads_takeArguments : f.Reads 0 0 (takeArguments expr) (takeArguments expr') := by
  have hvalue : f.Reads 0 0 (takeArgumentValue expr) (takeArgumentValue expr') :=
    reads_bind_eatKeyword .DEFAULT fun _ => reads_ite (fun _ => reads_pure none) fun _ =>
      (hexpr 0 0).bind fun e => reads_pure (some e)
  have houtput : ∀ l : Lexeme, (l.isKeyword .OUTPUT || l.isKeyword .OUT) → l.NoParen := by
    intro l hl
    rw [Bool.or_eq_true] at hl
    rcases hl with hl | hl
    · exact Lexeme.noParen_of_isKeyword hl
    · exact Lexeme.noParen_of_isKeyword hl
  have hargument : f.Reads 0 0 (takeArgument expr) (takeArgument expr') :=
    f.reads_takeAssigned.bind fun name => hvalue.bind fun value =>
      reads_bind_eatIf (by simp) houtput fun output => reads_pure _
  refine reads_bind_ahead fun X hX => ?_
  rw [head?_ahead, head?_ahead', ahead, ahead', endsStatement_append, endsStatement_append]
  exact reads_ite (fun _ => reads_pure []) (fun _ => f.reads_commaSeparated hargument) X hX

theorem reads_skipCallOptions :
    f.Reads 0 0 (skipCallOptions f.first expr) (skipCallOptions f.second expr') := by
  intro X hX
  refine runs_bind_atNext ?_
  split
  · next hwith =>
    cases X with
    | nil => simp at hwith
    | cons l X => exact (f.runs_fragment hexpr).bind fun _ _ _ hY => runs_pure hY
  · exact runs_pure hX

omit hexpr in
theorem reads_takeProcedure : f.Reads 0 0 (takeProcedure f.first) (takeProcedure f.second) := by
  intro X hX
  refine Runs.bind (Q := fun v Y => Y = X ∧ v = (f.next X).variableHere?)
    (runs_bind_ahead (by rw [head?_ahead, head?_ahead']; exact runs_pure ⟨rfl, rfl⟩)) ?_
  rintro o Y - ⟨rfl, rfl⟩
  cases hv : (f.next Y).variableHere? with
  | none => exact ((f.reads_takeName .name).bind fun name => reads_pure _) Y hX
  | some v =>
    cases Y with
    | nil => simp at hv
    | cons l Y => exact runs_skip (Lexeme.noParen_of_variableHere? hv) hX (reads_pure _)

theorem runs_takeExecute {l : Lexeme} (hl : l.NoParen) :
    f.Runs (l :: X) (takeExecute f.first expr) (takeExecute f.second expr')
      fun _ Y => openAfter 0 Y = 0 := by
  intro hinside
  have hX := f.closed_of_suffix hinside
  revert hinside
  refine runs_bind_ahead ?_
  rw [lineAt_ahead, lineAt_ahead']
  refine runs_skip hl hX (reads_bind_eat_left ?_ ?_)
  · refine (f.reads_parenFragment hexpr).bind fun inside => ?_
    exact (f.reads_fragmentTail hexpr false).bind fun behind => reads_pure _
  · refine f.reads_takeAssigned.bind fun status => f.reads_takeProcedure.bind fun procedure => ?_
    refine f.reads_skipProcedureNumber.bind fun _ => ?_
    refine (f.reads_takeArguments hexpr).bind fun arguments => ?_
    exact (f.reads_skipCallOptions hexpr).bind fun _ => reads_pure _

/-! ## Other statements -/

theorem reads_takeReturn :
    f.Reads 0 0 (takeReturn f.first expr) (takeReturn f.second expr') := by
  refine (f.reads_expectKeyword .RETURN).bind fun _ => reads_bind_ahead fun X hX => ?_
  rw [ahead, ahead', endsStatement_append, endsStatement_append]
  exact reads_ite (fun _ => reads_pure _) (fun _ => (hexpr 0 0).bind fun e => reads_pure _) X hX

theorem runs_takeSelect {l : Lexeme} :
    f.Runs (l :: X) (takeSelect f.first expr) (takeSelect f.second expr')
      fun _ Y => openAfter 0 Y = 0 := by
  refine runs_bind_ahead ?_
  rw [getElem?_one_ahead, getElem?_one_ahead']
  split
  · exact f.runs_otherStatement hexpr
  · exact runs_bind_advance_one f.runs_unexpected

omit hexpr in
/-- A key word that the fence excludes is asked for in vain. -/
theorem runs_excluded {α : Type} {l : Lexeme} {k : Keyword} (hk : k.reachesOut)
    {g g' : Unit → Parser α} {R : α → List Lexeme → Prop} :
    f.Runs (l :: X) (expectKeyword f.first k >>= g) (expectKeyword f.second k >>= g') R := by
  intro hinside
  have hl := f.not_isKeyword hinside hk
  revert hinside
  have hfails : f.Runs (l :: X) (expectKeyword f.first k) (expectKeyword f.second k)
      fun _ _ => False := by
    refine (runs_eatIf (Q := fun b Y => b = false) (by simp) rfl ?_).bind ?_
    · rintro l' Y ⟨⟩ hl'
      exact absurd hl' hl
    · rintro b Y - rfl
      exact f.runs_expected (.keyword k)
  exact hfails.bind fun _ _ _ h => h.elim

theorem runs_takeBegin {l : Lexeme} {statement statement' : Parser Statement} :
    f.Runs (l :: X) (takeBegin f.first expr statement) (takeBegin f.second expr' statement')
      fun _ Y => openAfter 0 Y = 0 := by
  refine runs_bind_ahead ?_
  rw [getElem?_one_ahead, getElem?_one_ahead']
  split
  · exact f.runs_otherStatement hexpr
  · exact f.runs_excluded rfl

theorem runs_takeStatement {l : Lexeme} {statement statement' : Parser Statement} :
    f.Runs (l :: X) (takeStatement f.first expr statement)
      (takeStatement f.second expr' statement') fun _ Y => openAfter 0 Y = 0 := by
  intro hinside
  have hX := f.closed_of_suffix hinside
  have hcreate : ∀ k : Keyword, l.dispatch? = some k → k.reachesOut →
      (k.spelling.all fun c => ¬Text.IsForeign c.toNat) → False := by
    intro k hdispatch hk hspelling
    refine f.not_isKeyword hinside hk (decide_eq_true ?_)
    exact Lexeme.keyword?_of_dispatch? hdispatch hspelling
  revert hinside
  refine runs_bind_ahead ?_
  rw [head?_ahead, head?_ahead', Option.bind_some, next_cons]
  split
  · exact f.runs_takeDeclare hexpr
  · next h => exact f.runs_takeSet hexpr (Lexeme.noParen_of_dispatch? h)
  · next h => exact f.runs_takeExecute hexpr (Lexeme.noParen_of_dispatch? h)
  · next h => exact f.runs_takeExecute hexpr (Lexeme.noParen_of_dispatch? h)
  · next h => exact (hcreate _ h rfl (by decide)).elim
  · next h => exact (hcreate _ h rfl (by decide)).elim
  · exact f.runs_takeBegin hexpr
  · exact f.runs_excluded rfl
  · exact f.runs_excluded rfl
  · exact f.reads_takeReturn hexpr _ hX
  · exact f.runs_takeSelect hexpr
  · exact f.runs_unexpected
  · exact f.runs_unexpected
  · exact f.runs_otherStatement hexpr

end

/-- A statement before the semicolon stays before it. -/
theorem runs_statement (l : Lexeme) (X : List Lexeme) : ∀ levels,
    f.Runs (l :: X) (statement f.first levels) (statement f.second levels) fun _ _ => True
  | 0 => f.runs_tooDeep
  | levels + 1 => (f.runs_takeStatement (f.reads_expr levels)).mono fun _ _ _ _ => trivial

end Fence

end SqlLint
