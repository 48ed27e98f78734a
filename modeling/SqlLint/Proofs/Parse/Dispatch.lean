import SqlLint.Proofs.Parse.Pratt
import SqlLint.Proofs.Parse.StatementKeep

/-!
# What is chosen by a word begins with that word

Statements, and the words that begin or continue an expression, are chosen by the full upper case of
a word. What is chosen then asks for its own first word again, by its ASCII letters. The two tests
agree exactly on words of ASCII characters: a letter such as `ı` becomes an ASCII letter in upper
case, but is none. So `ıf` is read as an `IF` that fails at its own first word.

If the first word is made of ASCII characters, then no statement and no expression ever fails in
this way. The failure would leave the cursor where it was. It is therefore enough to see that
whoever asks for a key word has passed a lexeme before.

## Staying behind a key word

What a reader does behind its first word is known to stay in the batch, but only as a part of that
reader: it has not been said that it does not go back in front of the word. It cannot, since it has
not seen it. Whether the word is the first one on its line makes no difference for the reader, so
what is ahead in the end cannot begin with the word.

## Main definitions

* `SyntaxError.asksKeyword`: errors that ask for a key word
* `Starts`: a lexeme is passed before anything is returned and before a key word is asked for

## Main results

* `Lexeme.isKeyword_iff_isAscii`: where the two tests for key words agree
* `starts_takeHead`, `starts_takeStatement`: heads of expressions, and statements
* `keyword_of_dispatch`: what is chosen by a word does not fail at that word
* `not_keyword_of_dispatch`: `ıf` is no `IF`
-/

namespace SqlLint

/-- A word that is a key word by its full upper case is the same one by its ASCII letters exactly
if it has no others. -/
theorem Lexeme.isKeyword_iff_isAscii {l : Lexeme} {k : Keyword} (h : l.dispatch? = some k) :
    l.isKeyword k ↔ l.IsAscii := by
  rw [isKeyword, decide_eq_true_iff]
  exact ⟨isAscii_of_keyword?, fun hascii => hascii.dispatch?_eq.symm.trans h⟩

/-- The key words of an operator that has been found by them. -/
theorem BinaryOp.keywords_of_atStart? {ls : List Lexeme} {op : BinaryOp} {width : Nat}
    (hascii : ∀ l ∈ ls.take 2, l.IsAscii) (h : atStart? ls = some (op, width))
    (hword : ∀ m, ls.head?.map Lexeme.token ≠ some (.mark m)) :
    ∃ k, ofKeyword? k = some op ∧ ((ls.take width).map Lexeme.keyword? = [some k] ∨
      (ls.take width).map Lexeme.keyword? = [some .NOT, some k]) := by
  cases found_of_atStart? h with
  | @mark l ls m hl _ => exact absurd (congrArg some hl) (hword m)
  | @word l ls k hl hop =>
    rw [(hascii l (by simp)).dispatch?_eq] at hl
    exact ⟨k, hop, .inl (by simp [hl])⟩
  | @negated l next ls k hl hnext hop =>
    rw [(hascii l (by simp)).dispatch?_eq] at hl
    rw [(hascii next (by simp)).dispatch?_eq] at hnext
    exact ⟨k, hop, .inr (by simp [hl, hnext])⟩

/-- Whether the error asks for a key word. -/
def SyntaxError.asksKeyword : SyntaxError → Bool
  | .expected _ (.keyword _) _ => true
  | _ => false

namespace Parser

variable {α β : Type} {p : Parser α} {f : α → Parser β} {s : Cursor} {l : Lexeme}
  {rest : List Lexeme}

/-! ## Staying behind the first lexeme -/

theorem stays_pure (a : α) : Stays (pure a) := fun s => .refl s

theorem stays_ahead : Stays ahead := fun s => .refl s

theorem stays_atNext (test : Lexeme → Bool) : Stays (atNext test) := fun s => .refl s

theorem Stays.andThen (hp : Stays p) (hf : ∀ a, Stays (f a)) : Stays (p >>= f) := fun s =>
  ends_bind.2 ((hp s).mono
    (fun a t ht => (hf a t).mono (fun _ _ hu => ht.trans hu) fun _ _ hu => ht.trans hu)
    fun _ _ ht => ht)

/-- Going on behind a key word that is there. -/
theorem ends_bind_expectKeyword {cx : Context} {k : Keyword} {f : Unit → Parser α}
    {Q : α → Cursor → Prop} {E : SyntaxError → Cursor → Prop} (hs : s.rest = l :: rest)
    (hl : l.isKeyword k) :
    Ends (expectKeyword cx k >>= f) s Q E ↔ Ends (f ()) (s.moveTo rest) Q E := by
  rw [ends_bind, expectKeyword, ends_bind, eatKeyword, ends_eatIf_cons hs hl]
  exact Iff.rfl

/-- What follows a key word stays behind it. -/
theorem Stays.of_expectKeyword {cx : Context} {k : Keyword} {f : Unit → Parser α}
    (h : Stays (expectKeyword cx k >>= f)) : Stays (f ()) := by
  intro t
  have hbehind : ∀ first, Ends (f ()) t
      (fun _ u => (t.moveTo (⟨k.token, 0, first⟩ :: t.rest)).Reaches u)
      fun _ u => (t.moveTo (⟨k.token, 0, first⟩ :: t.rest)).Reaches u := by
    intro first
    have hfirst := h (t.moveTo (⟨k.token, 0, first⟩ :: t.rest))
    rwa [ends_bind_expectKeyword rfl (Lexeme.isKeyword_of_token rfl)] at hfirst
  refine ((hbehind false).and (hbehind true)).mono (fun a u hu => ?_) fun e u hu => ?_
  · exact .of_cons (by simp) hu.1 hu.2
  · exact .of_cons (by simp) hu.1 hu.2

/-! ## Passing a lexeme first -/

/-- A lexeme is passed before the parser returns anything, and before it asks for a key word. -/
def Starts (p : Parser α) (s : Cursor) : Prop :=
  Ends p s (fun _ t => t.rest.length < s.rest.length)
    fun e t => e.asksKeyword → t.rest.length < s.rest.length

theorem Starts.andThen (hp : Starts p s) (hf : ∀ a, Stays (f a)) : Starts (p >>= f) s := by
  refine ends_bind.2 (hp.mono (fun a t ht => ?_) fun _ _ h => h)
  exact (hf a t).mono (fun _ _ hu => Nat.lt_of_le_of_lt hu.length_le ht)
    fun _ _ hu _ => Nat.lt_of_le_of_lt hu.length_le ht

theorem starts_bind_ahead {f : List Lexeme → Parser α} (hs : s.rest = l :: rest)
    (hf : Starts (f (l :: rest)) s) : Starts (ahead >>= f) s := by
  rw [Starts, ends_bind, ends_ahead, hs]
  rwa [Starts, hs] at hf

theorem starts_advance {n : Nat} (hn : 0 < n) (hs : s.rest = l :: rest) :
    Starts (advance n) s := by
  change (s.rest.drop n).length < s.rest.length
  rw [List.length_drop, hs, List.length_cons]
  omega

theorem starts_expectKeyword (cx : Context) {k : Keyword} (hs : s.rest = l :: rest)
    (hl : l.isKeyword k) : Starts (expectKeyword cx k) s := by
  rw [Starts, expectKeyword, ends_bind, eatKeyword, ends_eatIf_cons hs hl]
  exact (Cursor.Reaches.refl _).length_lt hs

theorem starts_unexpected (cx : Context) (hs : s.rest = l :: rest) :
    Starts (unexpected cx : Parser α) s := by
  rw [Starts, Ends, unexpected, hs]
  intro hkeyword
  cases hkeyword

/-- A feature that is missing is no key word. -/
theorem starts_bind_require (cx : Context) (g : Feature) {f : Unit → Parser α}
    (hf : Starts (f ()) s) : Starts (require cx g >>= f) s := by
  rw [Starts, ends_bind, Ends, require]
  split
  · next h =>
    split at h
    · cases h
      exact hf
    · cases h
  · next h =>
    split at h
    · cases h
    · cases h
      intro hkeyword
      cases hkeyword

theorem starts_takeName (cx : Context) (hs : s.rest = l :: rest) :
    Starts (takeName cx .name) s := by
  rw [Starts, Ends, takeName, hs]
  cases hpart : l.namePart? with
  | none =>
    simp only [hpart]
    intro hkeyword
    cases hkeyword
  | some text =>
    have htail := Cursor.reaches_moveTo (s := s.moveTo rest) (Coupling.nameTail_suffix rest)
    simp only [hpart]
    exact hs ▸ htail.length_lt hs

/-! ## Expressions -/

section

variable (cx : Context) {deeper : Nat → Parser Expr} (hdeeper : ∀ m, Reads (deeper m) Expr.vars)

include hdeeper

theorem starts_takeUnary (op : UnaryOp) (hs : s.rest = l :: rest) :
    Starts (takeUnary deeper op) s :=
  (starts_advance Nat.one_pos hs).andThen fun _ =>
    (hdeeper op.power).collects.stays.andThen fun _ => stays_pure _

theorem starts_takeParen (hs : s.rest = l :: rest) : Starts (takeParen cx deeper) s := by
  refine (starts_advance Nat.one_pos hs).andThen fun _ => stays_ahead.andThen fun ls => ?_
  split
  · exact (closes_parenFragment cx hdeeper).stays.andThen fun _ => stays_pure _
  · refine (hdeeper 0).collects.stays.andThen fun inner => ?_
    refine (stays_eat .comma).andThen fun comma => ?_
    split
    · exact (closes_listOrQuery cx hdeeper).stays.andThen fun _ => stays_pure _
    · exact (stays_expect cx .rightParen).andThen fun _ => stays_pure _

theorem starts_takeNamed (hs : s.rest = l :: rest) : Starts (takeNamed cx deeper) s := by
  refine (starts_takeName cx hs).andThen fun name => ?_
  refine passes_skipAllColumns.collects.stays.andThen fun _ => (stays_eat _).andThen fun call => ?_
  split
  · refine (closes_callArguments cx hdeeper).stays.andThen fun args => ?_
    exact (reads_windowClauses cx hdeeper).collects.stays.andThen fun more => stays_pure _
  · exact stays_pure _

theorem starts_takeCast (kind : CastKind) (hs : s.rest = l :: rest) :
    Starts (takeCast cx deeper kind) s := by
  have hcast : Starts (do advance 1; expect cx .leftParen; takeCastInside cx deeper kind) s :=
    (starts_advance Nat.one_pos hs).andThen fun _ => (stays_expect cx .leftParen).andThen fun _ =>
      (closes_takeCastInside cx hdeeper kind).stays
  rw [takeCast, requireCast]
  cases kind.feature? with
  | none => exact hcast
  | some g => exact starts_bind_require cx g hcast

theorem starts_takeCase (hs : s.rest = l :: rest) (hl : l.isKeyword .CASE) :
    Starts (takeCase cx deeper) s :=
  (starts_expectKeyword cx hs hl).andThen fun _ =>
    (reads_takeCase cx hdeeper).collects.stays.of_expectKeyword

theorem starts_takeWord (hs : s.rest = l :: rest) (hascii : l.IsAscii) :
    Starts (takeWord cx deeper l rest) s := by
  have hone : ∀ e : Expr, Starts (do advance 1; return e) s :=
    fun e => (starts_advance Nat.one_pos hs).andThen fun _ => stays_pure e
  have hnamed := starts_takeNamed cx hdeeper hs
  rw [takeWord]
  split
  · exact hone _
  · split
    · exact hone _
    · exact starts_takeUnary hdeeper .not hs
    · exact starts_takeUnary hdeeper .existsRows hs
    · next hcase =>
      exact starts_takeCase cx hdeeper hs ((Lexeme.isKeyword_iff_isAscii hcase).2 hascii)
    · rw [requireIif]
      split
      · exact starts_bind_require cx .iif hnamed
      · exact hnamed
    · split
      · exact starts_takeCast cx hdeeper _ hs
      · split
        · exact starts_unexpected cx hs
        · exact hnamed

theorem starts_takeHead (hs : s.rest = l :: rest) (hascii : l.IsAscii) :
    Starts (takeHead cx deeper) s := by
  have hone : ∀ e : Expr, Starts (do advance 1; return e) s :=
    fun e => (starts_advance Nat.one_pos hs).andThen fun _ => stays_pure e
  refine starts_bind_ahead hs ?_
  simp only
  split
  · exact hone _
  · exact hone _
  · exact hone _
  · exact hone _
  · exact starts_takeUnary hdeeper .minus hs
  · exact starts_takeUnary hdeeper .plus hs
  · exact starts_takeUnary hdeeper .bitNot hs
  · exact hone _
  · exact starts_takeParen cx hdeeper hs
  · exact starts_takeWord cx hdeeper hs hascii
  · exact starts_unexpected cx hs

theorem stays_infixLoop (minPower : Nat) (head : Expr) :
    Stays (repeatWhile (infixRound cx deeper minPower) head) := by
  intro s
  refine ends_repeatWhile (I := fun _ t => s.Reaches t) (.refl s) (fun left t ht => ?_)
    fun _ _ ht _ => ht
  refine (ends_infixRound cx hdeeper minPower left t).mono (fun o u hu => ?_)
    fun _ _ hu => ht.trans hu
  cases o with
  | none =>
    obtain rfl : u = t := hu
    exact ht
  | some e =>
    obtain ⟨hlt, _, hwalk, -⟩ := hu
    exact ⟨ht.trans hwalk.reaches, hlt⟩

theorem starts_operatorChain (minPower : Nat) (hs : s.rest = l :: rest) (hascii : l.IsAscii) :
    Starts (operatorChain cx deeper minPower) s :=
  (starts_takeHead cx hdeeper hs hascii).andThen (stays_infixLoop cx hdeeper minPower)

end

/-! ## Statements -/

/-- What has been shown of a statement that begins with a key word says that what follows the word
stays behind it. -/
theorem starts_of_takes (cx : Context) {k : Keyword} {f : Unit → Parser Statement}
    (hs : s.rest = l :: rest) (hl : l.isKeyword k)
    (h : ∀ s, Ends (expectKeyword cx k >>= f) s (fun a t => s.Takes a.vars t)
      fun _ t => s.Reaches t) : Starts (expectKeyword cx k >>= f) s := by
  have hstays : Stays (expectKeyword cx k >>= f) := fun t =>
    (h t).mono (fun _ _ hu => hu.reaches) fun _ _ hu => hu
  exact (starts_expectKeyword cx hs hl).andThen fun _ => hstays.of_expectKeyword

section

variable (cx : Context) {expr : Nat → Parser Expr} (hexpr : ∀ m, Reads (expr m) Expr.vars)

include hexpr

theorem starts_otherStatement (hs : s.rest = l :: rest) : Starts (otherStatement cx expr) s := by
  refine Starts.andThen (starts_bind_ahead hs ?_) fun _ => stays_pure _
  exact (starts_advance Nat.one_pos hs).andThen fun _ =>
    (reads_fragmentTail cx hexpr _).collects.stays.andThen fun _ => stays_pure _

theorem starts_takeDeclare (hs : s.rest = l :: rest) (hl : l.isKeyword .DECLARE) :
    Starts (takeDeclare cx expr) s := by
  refine starts_bind_ahead hs ?_
  split
  · exact starts_otherStatement cx hexpr hs
  · exact (starts_expectKeyword cx hs hl).andThen fun _ =>
      (collects_commaSeparated (collects_takeDeclaration cx hexpr)).stays.andThen fun _ =>
        stays_pure _

theorem starts_takeSetOption (hs : s.rest = l :: rest) (hl : l.isKeyword .SET) :
    Starts (takeSetOption cx expr) s := by
  rw [takeSetOption_eq]
  refine starts_bind_ahead hs ?_
  simp only [hl, if_true]
  split
  · split
    · exact starts_otherStatement cx hexpr hs
    · have hafter : (optionNames rest).2.drop 1 <:+ rest :=
        (List.drop_suffix 1 _).trans (optionNames_suffix rest)
      refine Starts.andThen ?_ fun _ => stays_pure _
      rw [Starts, ends_moveTo]
      exact (Cursor.reaches_moveTo (s := s.moveTo rest) hafter).length_lt hs
  · exact starts_otherStatement cx hexpr hs

theorem starts_takeSet (hs : s.rest = l :: rest) (hl : l.isKeyword .SET) :
    Starts (takeSet cx expr) s := by
  refine starts_bind_ahead hs ?_
  split
  · exact starts_takeSetOption cx hexpr hs hl
  · refine (starts_advance Nat.two_pos hs).andThen fun _ => ?_
    refine (stays_takeAssignment cx).andThen fun op => (stays_atNext _).andThen fun cursor => ?_
    split
    · exact (collects_fragment cx hexpr).stays.andThen fun _ => stays_pure _
    · exact (hexpr 0).collects.stays.andThen fun _ => stays_pure _

theorem starts_takeExecute (hs : s.rest = l :: rest) : Starts (takeExecute cx expr) s := by
  refine starts_bind_ahead hs ((starts_advance Nat.one_pos hs).andThen fun _ => ?_)
  refine (stays_eat _).andThen fun paren => ?_
  split
  · refine (closes_parenFragment cx hexpr).stays.andThen fun inside => ?_
    exact (reads_fragmentTail cx hexpr false).collects.stays.andThen fun _ => stays_pure _
  · refine collects_takeAssigned.stays.andThen fun status => ?_
    refine (collects_takeProcedure cx).stays.andThen fun procedure => ?_
    refine stays_skipProcedureNumber.andThen fun _ => ?_
    refine (collects_takeArguments hexpr).stays.andThen fun arguments => ?_
    exact (stays_skipCallOptions cx hexpr).andThen fun _ => stays_pure _

theorem starts_takeReturn (hs : s.rest = l :: rest) (hl : l.isKeyword .RETURN) :
    Starts (takeReturn cx expr) s :=
  starts_of_takes cx hs hl (ends_takeReturn cx hexpr)

theorem starts_takeSelect (hs : s.rest = l :: rest) : Starts (takeSelect cx expr) s := by
  refine starts_bind_ahead hs ?_
  split
  · exact starts_otherStatement cx hexpr hs
  · exact (starts_advance Nat.one_pos hs).andThen fun _ t => ends_unexpected cx fun _ => .refl t

variable {statement : Parser Statement}
  (hstatement : ∀ s, Ends statement s (fun a t => s.Takes a.vars t) fun _ t => s.Reaches t)

include hstatement

theorem starts_takeCreate (hs : s.rest = l :: rest) : Starts (takeCreate cx expr statement) s := by
  have hdefinition : ∀ (orAlter : Bool) (offset : Nat) {p : Parser Statement}, Stays p →
      Starts (do requireOrAlter cx orAlter; advance (offset + 1); p) s := by
    intro orAlter offset p hp
    have hbehind : Starts (do advance (offset + 1); p) s :=
      (starts_advance (Nat.succ_pos offset) hs).andThen fun _ => hp
    rw [requireOrAlter]
    split
    · exact starts_bind_require cx .createOrAlter hbehind
    · exact hbehind
  refine starts_bind_ahead hs ?_
  extract_lets line orAlter offset
  split
  · exact hdefinition _ _ (collects_takeFunctionDefinition cx hexpr hstatement _).stays
  · exact hdefinition _ _ (collects_takeProcedureDefinition cx hexpr hstatement _).stays
  · exact hdefinition _ _ (collects_takeProcedureDefinition cx hexpr hstatement _).stays
  · exact starts_otherStatement cx hexpr hs

theorem starts_takeBegin (hs : s.rest = l :: rest) (hl : l.isKeyword .BEGIN) :
    Starts (takeBegin cx expr statement) s := by
  refine starts_bind_ahead hs ?_
  split
  · exact starts_otherStatement cx hexpr hs
  · refine (starts_expectKeyword cx hs hl).andThen fun _ => ?_
    refine stays_takeBlockLabel.andThen fun label => ?_
    refine (collects_statementList hstatement _).stays.andThen fun body => ?_
    refine (stays_expectKeyword cx .END).andThen fun _ => ?_
    exact (stays_expectBlockLabel cx label).andThen fun _ => stays_pure _

/-- A statement that is chosen by a word of ASCII characters does not fail at that word. -/
theorem starts_takeStatement (hs : s.rest = l :: rest) (hascii : l.IsAscii) :
    Starts (takeStatement cx expr statement) s := by
  refine starts_bind_ahead hs ?_
  rw [List.head?_cons, Option.bind_some, hascii.dispatch?_eq]
  have hkeyword : ∀ {k}, l.keyword? = some k → l.isKeyword k := fun h => decide_eq_true h
  split
  · next hk => exact starts_takeDeclare cx hexpr hs (hkeyword hk)
  · next hk => exact starts_takeSet cx hexpr hs (hkeyword hk)
  · exact starts_takeExecute cx hexpr hs
  · exact starts_takeExecute cx hexpr hs
  · exact starts_takeCreate cx hexpr hstatement hs
  · exact starts_takeCreate cx hexpr hstatement hs
  · next hk => exact starts_takeBegin cx hexpr hstatement hs (hkeyword hk)
  · next hk => exact starts_of_takes cx hs (hkeyword hk) (ends_takeIf cx hexpr hstatement)
  · next hk => exact starts_of_takes cx hs (hkeyword hk) (ends_takeWhile cx hexpr hstatement)
  · next hk => exact starts_takeReturn cx hexpr hs (hkeyword hk)
  · exact starts_takeSelect cx hexpr hs
  · exact starts_unexpected cx hs
  · exact starts_unexpected cx hs
  · exact starts_otherStatement cx hexpr hs

end

/-! ## At every level -/

theorem starts_tooDeep (cx : Context) (s : Cursor) : Starts (tooDeep cx : Parser α) s :=
  fun h => nomatch h

theorem starts_expr (cx : Context) (hs : s.rest = l :: rest) (hascii : l.IsAscii) :
    ∀ levels minPower, Starts (expr cx levels minPower) s
  | 0, _ => starts_tooDeep cx s
  | levels + 1, minPower => starts_operatorChain cx (reads_expr cx levels) minPower hs hascii

theorem starts_statement (cx : Context) (hs : s.rest = l :: rest) (hascii : l.IsAscii) :
    ∀ levels, Starts (statement cx levels) s
  | 0 => starts_tooDeep cx s
  | levels + 1 =>
    starts_takeStatement cx (reads_expr cx levels) (ends_statement cx levels) hs hascii

/-- At the end of the batch no expression asks for a key word, but for an expression. -/
theorem ends_expr_nil (cx : Context) (hs : s.rest = []) : ∀ levels minPower,
    Ends (expr cx levels minPower) s (fun _ _ => True) fun e _ => e.asksKeyword = false
  | 0, _ => rfl
  | levels + 1, minPower => by
    rw [expr, operatorChain, ends_bind, takeHead, ends_bind, ends_ahead, hs]
    rfl

/-- At the end of the batch a statement has nothing in it. -/
theorem ends_statement_nil (cx : Context) (hs : s.rest = []) : ∀ levels,
    Ends (statement cx levels) s (fun _ _ => True) fun e _ => e.asksKeyword = false
  | 0 => rfl
  | levels + 1 => by
    rw [statement, takeStatement, ends_bind, ends_ahead, hs]
    change Ends (otherStatement cx (expr cx levels)) s _ _
    rw [otherStatement, ends_bind, fragment, ends_bind, ends_ahead, hs]
    trivial

/-- **What is chosen by a word begins with that word.** Wherever the next two words are made of
ASCII characters, the key word by which a statement, the head of an expression or an operator is
chosen is there by the test for key words, too, and neither a statement nor an expression fails for
a key word that it misses before it has passed a lexeme. On other words the tests never agree. -/
theorem keyword_of_dispatch (cx : Context) (levels : Nat) (s : Cursor)
    (hascii : ∀ l ∈ s.rest.take 2, l.IsAscii) :
    (∀ (l : Lexeme) (k : Keyword), l.dispatch? = some k → (l.isKeyword k ↔ l.IsAscii)) ∧
      (∀ op width, BinaryOp.atStart? s.rest = some (op, width) →
        (∀ m, s.rest.head?.map Lexeme.token ≠ some (.mark m)) →
        ∃ k, BinaryOp.ofKeyword? k = some op ∧
          ((s.rest.take width).map Lexeme.keyword? = [some k] ∨
            (s.rest.take width).map Lexeme.keyword? = [some .NOT, some k])) ∧
      (∀ e t, statement cx levels s = .error e t → e.asksKeyword →
        t.rest.length < s.rest.length) ∧
      ∀ minPower e t, expr cx levels minPower s = .error e t → e.asksKeyword →
        t.rest.length < s.rest.length := by
  refine ⟨fun l k => Lexeme.isKeyword_iff_isAscii,
    fun op width hop hword => BinaryOp.keywords_of_atStart? hascii hop hword, ?_, ?_⟩
  · intro e t hstatement hasks
    cases hs : s.rest with
    | nil =>
      have hnot := (ends_statement_nil cx hs levels).error hstatement
      exact absurd hasks (by simp [hnot])
    | cons l rest =>
      have hl : l.IsAscii := hascii l (by simp [hs])
      exact hs ▸ (starts_statement cx hs hl levels).error hstatement hasks
  · intro minPower e t hexpr hasks
    cases hs : s.rest with
    | nil =>
      have hnot := (ends_expr_nil cx hs levels minPower).error hexpr
      exact absurd hasks (by simp [hnot])
    | cons l rest =>
      have hl : l.IsAscii := hascii l (by simp [hs])
      exact hs ▸ (starts_expr cx hs hl levels minPower).error hexpr hasks

/-- `bEgin Try RETURN END` fails for the `TRY` that is missing at its end. -/
theorem keyword_of_dispatch_begin_try :
    let ls : List Lexeme := [.word "bEgin" none, .word "Try" none, .word "RETURN" none,
      .word "END" none].map (⟨·, 1, false⟩)
    let e : SyntaxError := .expected 1 (.keyword .TRY) none
    let t : Cursor := ⟨([] : List Lexeme), []⟩
    (∀ l ∈ ls.take 2, l.IsAscii) ∧ statement ⟨.sql2000, 1⟩ 2 ⟨ls, []⟩ = .error e t ∧
      e.asksKeyword ∧ t.rest.length < ls.length := by
  intro ls e t
  have hascii : ∀ l ∈ ls.take 2, l.IsAscii := by
    simp [ls, Lexeme.IsAscii, Token.plainWord?]
  have hstatement : statement ⟨.sql2000, 1⟩ 2 ⟨ls, []⟩ = .error e t := by rfl
  have hlt := (keyword_of_dispatch ⟨.sql2000, 1⟩ 2 ⟨ls, []⟩ hascii).2.2.1 e t hstatement rfl
  exact ⟨hascii, hstatement, rfl, hlt⟩

/-- `ıf 1 = 1 RETURN` is read as an `IF` and fails for the `IF` that it misses. -/
theorem not_keyword_of_dispatch :
    (¬∀ (l : Lexeme) (k : Keyword), l.dispatch? = some k → l.isKeyword k) ∧
      ¬∀ (cx : Context) (levels : Nat) (s : Cursor) (e : SyntaxError) (t : Cursor),
        statement cx levels s = .error e t → e.asksKeyword → t.rest.length < s.rest.length := by
  let ls : List Lexeme := [.word "ıf" none, .number "1" false, .mark .eq, .number "1" false,
    .word "RETURN" none].map (⟨·, 1, false⟩)
  constructor
  · intro h
    have hif : (⟨.word "ıf" none, 1, false⟩ : Lexeme).dispatch? = some .IF := by decide +kernel
    exact absurd (h _ _ hif) (by decide +kernel)
  · intro h
    have hstatement : statement ⟨.sql2000, 1⟩ 2 ⟨ls, []⟩ =
        .error (.expected 1 (.keyword .IF) (some (.word "ıf" none))) ⟨ls, []⟩ := by rfl
    exact absurd (h _ _ _ _ _ hstatement rfl) (Nat.lt_irrefl _)

end Parser

end SqlLint
