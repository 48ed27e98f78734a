import Mathlib.Data.List.Chain
import SqlLint.Token.Lexeme

/-!
# The first token on a line

A separator of batches has to be the first token on its line, so every lexeme knows whether it is.
A token may begin on one line and end on another one, and then it stands on all lines between: a
lexeme is the first on its line if no token before it stands on that line.

That looks at all tokens before a lexeme. Making the lexemes needs only the line on which the token
directly before it has ended, since the pieces of a script come in the order in which they stand
there. `Remembers` says what that one line tells about all tokens passed so far.

## Main definitions

* `Piece.InOrder`: no piece ends before it begins, and none begins before the one in front has ended
* `Piece.lexemes`: the lexemes of a list of pieces, each with a look at all pieces in front of it

## Main results

* `Lexeme.ofPieces_eq_lexemes`: for pieces in order, one remembered line is enough
* `scan_inOrder`: the pieces of a script are in order
* `tokenize_eq_lexemes`: the lexemes of a script
-/

namespace SqlLint

namespace Piece

/-- Whether the piece is a token that stands on a line, among others or alone. -/
def standsOn (line : Nat) (p : Piece) : Bool :=
  p.token.isSome && (p.first ≤ line && line ≤ p.last)

/-- Every piece ends where it begins or later, and where it ends or later the next one begins. -/
structure InOrder (ps : List Piece) : Prop where
  first_le_last : ∀ p ∈ ps, p.first ≤ p.last
  last_le_first : ps.IsChain fun p q => p.last ≤ q.first

/-- The lexeme of a token: it is on the line where the token begins, and marked as the first one
there unless a token among the pieces `before` it stands on that line. -/
def lexeme? (before : List Piece) (p : Piece) : Option Lexeme :=
  p.token.map fun token => ⟨token, p.first, !before.any (standsOn p.first)⟩

/-- The lexemes of the tokens among the pieces. -/
def lexemes (ps : List Piece) : List Lexeme :=
  ps.zipIdx.filterMap fun (p, i) => p.lexeme? (ps.take i)

variable {p : Piece} {ps : List Piece}

theorem standsOn_iff {line : Nat} :
    p.standsOn line = true ↔ p.token.isSome = true ∧ p.first ≤ line ∧ line ≤ p.last := by
  simp [standsOn]

/-- Pieces in order are in order over any distance. -/
theorem InOrder.pairwise (h : InOrder ps) : ps.Pairwise fun p q => p.last ≤ q.first := by
  obtain ⟨hspan, hchain⟩ := h
  induction ps with
  | nil => exact .nil
  | cons p ps ih =>
    have hps := ih (fun q hq => hspan q (List.mem_cons_of_mem p hq)) hchain.tail
    refine List.pairwise_cons.2 ⟨?_, hps⟩
    cases ps with
    | nil => simp
    | cons r rs =>
      have hr : p.last ≤ r.first := (List.isChain_cons_cons.1 hchain).1
      intro q hq
      rcases List.mem_cons.1 hq with rfl | hq
      · exact hr
      · have hspan' : r.first ≤ r.last := hspan r (by simp)
        have hq' : r.last ≤ q.first := (List.pairwise_cons.1 hps).1 q hq
        omega

end Piece

namespace Lexeme

open SqlLint.Piece

/-! ## What one line tells -/

/-- On any line on which no token passed so far has still to end, one of them stands exactly if it
is the remembered line. -/
def Remembers (last : Option Nat) (passed : List Piece) : Prop :=
  ∀ line, (∀ p ∈ passed, p.last ≤ line) → (last = some line ↔ ∃ p ∈ passed, p.standsOn line)

variable {last : Option Nat} {passed ps : List Piece} {p : Piece}

theorem remembers_nil : Remembers none [] := by
  intro line _
  simp

/-- A blank or comment changes nothing. -/
theorem Remembers.blank (h : Remembers last passed) (hp : p.token = none) :
    Remembers last (passed ++ [p]) := by
  intro line hline
  rw [h line fun q hq => hline q (List.mem_append_left _ hq)]
  simp [standsOn, hp, or_and_right, exists_or]

/-- Behind a token only the line on which it ends is remembered. A token before it that stands on
this line or a later one ends there as well. -/
theorem Remembers.token (h : ∀ q ∈ passed, q.last ≤ p.first) (hspan : p.first ≤ p.last)
    (hp : p.token.isSome = true) : Remembers (some p.last) (passed ++ [p]) := by
  intro line hline
  have hend : p.last ≤ line := hline p (by simp)
  constructor
  · intro heq
    obtain rfl : p.last = line := Option.some.inj heq
    exact ⟨p, by simp, standsOn_iff.2 ⟨hp, hspan, le_refl _⟩⟩
  · rintro ⟨q, hq, hstands⟩
    obtain ⟨-, -, hle⟩ := standsOn_iff.1 hstands
    rcases List.mem_append.1 hq with hq | hq
    · have := h q hq
      exact congrArg some (by omega)
    · obtain rfl := List.mem_singleton.1 hq
      exact congrArg some (by omega)

/-- The lexemes of pieces behind others, with the line that these leave to be remembered. -/
theorem ofPieces_behind (hlast : Remembers last passed)
    (hspan : ∀ p ∈ ps, p.first ≤ p.last)
    (horder : (passed ++ ps).Pairwise fun p q => p.last ≤ q.first) :
    ofPieces last ps = (ps.zipIdx passed.length).filterMap fun (p, i) =>
      p.lexeme? ((passed ++ ps).take i) := by
  induction ps generalizing last passed with
  | nil => rfl
  | cons p ps ih =>
    have hpassed : ∀ q ∈ passed, q.last ≤ p.first :=
      fun q hq => (List.pairwise_append.1 horder).2.2 q hq p (by simp)
    have hspan' : ∀ q ∈ ps, q.first ≤ q.last := fun q hq => hspan q (List.mem_cons_of_mem p hq)
    -- The piece goes over to those passed, and the whole list stays as it is.
    have hmove : passed ++ p :: ps = passed ++ [p] ++ ps := by simp
    have hlength : (passed ++ [p]).length = passed.length + 1 := List.length_append
    rw [ofPieces, List.zipIdx_cons, List.filterMap_cons]
    dsimp only
    rw [List.take_left, lexeme?]
    cases hp : p.token with
    | none =>
      have hrest := ih (hlast.blank hp) hspan' (hmove ▸ horder)
      rw [← hmove, hlength] at hrest
      exact hrest
    | some token =>
      have hspan_p : p.first ≤ p.last := hspan p (by simp)
      have hrest := ih (.token hpassed hspan_p (by rw [hp]; rfl)) hspan' (hmove ▸ horder)
      rw [← hmove, hlength] at hrest
      have hfirst : decide (last ≠ some p.first) = !passed.any (standsOn p.first) := by
        rw [Bool.eq_iff_iff]
        simp [hlast p.first hpassed]
      dsimp only [Option.map_some]
      rw [hrest, hfirst]

/-- **The mark of the first token on a line is exact.**

From pieces in the order of the source, the lexemes are made of the tokens in this order, each on
the line where it begins and marked exactly if no token in front of it, wherever it begins and ends,
stands on that line. -/
theorem ofPieces_eq_lexemes (h : InOrder ps) : ofPieces none ps = lexemes ps :=
  ofPieces_behind remembers_nil h.first_le_last h.pairwise

/-- A string over two lines keeps the token behind it from being the first on its line. -/
theorem ofPieces_eq_lexemes_string :
    let ps : List Piece := [⟨some (.word "print" none), 1, 1⟩, ⟨none, 1, 1⟩,
      ⟨some (.string "a\nb"), 1, 2⟩, ⟨none, 2, 2⟩, ⟨some (.word "go" none), 2, 2⟩, ⟨none, 2, 3⟩,
      ⟨some (.word "select" none), 3, 3⟩]
    InOrder ps ∧ ofPieces none ps =
      [⟨.word "print" none, 1, true⟩, ⟨.string "a\nb", 1, false⟩, ⟨.word "go" none, 2, false⟩,
        ⟨.word "select" none, 3, true⟩] := by
  intro ps
  have h : InOrder ps := ⟨by decide, by decide⟩
  refine ⟨h, ?_⟩
  rw [ofPieces_eq_lexemes h]
  decide

end Lexeme

/-! ## The pieces of a script

The lines of a piece are counted while it is read, and counting goes only up. -/

namespace Scan

open SqlLint.Piece

variable {line : Nat} {seen cs : List Char} {r : String × Source}

theorem line_le_delimited {close : Char} (h : delimited close seen line cs = some r) :
    line ≤ r.2.line := by
  fun_induction delimited close seen line cs <;> grind [lineAfter]

theorem line_le_escapedBody (h : escapedBody seen line cs = some r) : line ≤ r.2.line := by
  fun_induction escapedBody seen line cs <;> grind [lineAfter]

theorem line_le_encodedBody {skip : Nat} (h : encodedBody seen line skip cs = some r) :
    line ≤ r.2.line := by
  fun_induction encodedBody seen line skip cs <;> grind [lineAfter]

theorem line_le_dollarBody {afterDollar : Bool} (h : dollarBody seen afterDollar line cs = some r) :
    line ≤ r.2.line := by
  fun_induction dollarBody seen afterDollar line cs <;> grind [lineAfter]

theorem line_le_taggedBody {tag held : List Char} {pending : Option (List Char)}
    (h : taggedBody tag seen held pending line cs = some r) : line ≤ r.2.line := by
  fun_induction taggedBody tag seen held pending line cs <;> grind [lineAfter]

theorem line_le_lineComment : line ≤ (lineComment line cs).line := by
  fun_induction lineComment line cs <;> grind [lineAfter]

theorem line_le_blockComment {depth : Nat} {previous : Char} {next : Source}
    (h : blockComment depth previous line cs = some next) : line ≤ next.line := by
  fun_induction blockComment depth previous line cs <;> grind [lineAfter]

theorem line_number : (number line cs).2.line = line := by
  fun_cases number line cs <;> rfl

theorem line_le_hash : line ≤ (hash line cs).2.line := by
  fun_cases hash line cs <;> grind [lineAfter, word]

theorem line_le_atSign : line ≤ (atSign line cs).2.line := by
  fun_cases atSign line cs <;> grind [lineAfter, word]

/-- What has been read ends on the given line or on a later one. -/
def Onward (line : Nat) (e : Except LexicalFault (Option Token × Source)) : Prop :=
  ∀ r, e = .ok r → line ≤ r.2.line

theorem onward_ok {r : Option Token × Source} (h : line ≤ r.2.line) : Onward line (.ok r) := by
  rintro _ ⟨⟩
  exact h

theorem onward_error (fault : LexicalFault) : Onward line (.error fault) := by
  rintro _ ⟨⟩

theorem onward_ite {c : Prop} [Decidable c] {e e' : Except LexicalFault (Option Token × Source)}
    (h : Onward line e) (h' : Onward line e') : Onward line (if c then e else e') := by
  split
  · exact h
  · exact h'

theorem onward_literal {body : Option (String × Source)} (fault : LexicalFault)
    (token : String → Token) (h : ∀ {b}, body = some b → line ≤ b.2.line) :
    Onward line (literal body fault token) := by
  cases body with
  | none => exact onward_error fault
  | some b => exact onward_ok (h rfl)

theorem onward_dollar : Onward line (dollar line cs) := by
  unfold dollar
  split
  · split
    · next hbody => exact onward_ok (line_le_dollarBody hbody)
    · exact onward_error _
  · dsimp only
    split
    · split
      · next hbody => exact onward_ok (line_le_taggedBody hbody)
      · exact onward_error _
    · exact onward_ok (Nat.le_refl line)

/-- No piece ends on a line before the one on which it begins. -/
theorem onward_piece (c : Char) : Onward line (piece line c cs) := by
  have hsame : ∀ (token : Option Token) (rest : List Char),
      Onward line (.ok (token, ⟨rest, line⟩)) :=
    fun _ _ => onward_ok (Nat.le_refl line)
  have hnext : ∀ rest : List Char, Onward line (.ok (none, ⟨rest, line + 1⟩)) :=
    fun _ => onward_ok (Nat.le_succ line)
  unfold piece
  refine onward_ite (hsame _ _) (onward_ite (hnext _) (onward_ite ?_ ?_))
  · split
    · exact hnext _
    · exact hsame _ _
  refine onward_ite (onward_literal _ _ line_le_escapedBody) ?_
  refine onward_ite (onward_literal _ _ line_le_encodedBody) ?_
  refine onward_ite (onward_literal _ _ line_le_escapedBody) ?_
  refine onward_ite (onward_literal _ _ line_le_delimited) ?_
  refine onward_ite (onward_literal _ _ line_le_delimited) ?_
  refine onward_ite (onward_literal _ _ line_le_delimited) ?_
  refine onward_ite (onward_ok line_number.ge) ?_
  refine onward_ite (onward_ok line_le_lineComment) (onward_ite ?_ ?_)
  · split
    · next hcomment => exact onward_ok (line_le_blockComment hcomment)
    · exact onward_error _
  refine onward_ite (onward_ok line_le_hash) (onward_ite (onward_ok line_le_atSign) ?_)
  refine onward_ite (hsame _ _) (onward_ite (hsame _ _) (onward_ite onward_dollar ?_))
  refine onward_ite (hsame _ _) ?_
  split
  · exact hsame _ _
  · exact hsame _ _

theorem inOrder_concat {ps : List Piece} {p : Piece} (h : InOrder ps) (hp : p.first ≤ p.last)
    (hlast : ∀ q ∈ ps.getLast?, q.last ≤ p.first) : InOrder (ps ++ [p]) := by
  constructor
  · intro q hq
    rcases List.mem_append.1 hq with hq | hq
    · exact h.first_le_last q hq
    · rw [List.mem_singleton.1 hq]
      exact hp
  · refine List.isChain_append.2 ⟨h.last_le_first, List.isChain_singleton p, fun q hq r hr => ?_⟩
    obtain rfl : p = r := by simpa using hr
    exact hlast q hq

/-- A piece begins on the line that has been reached, and that is where the last one has ended. -/
theorem inOrder_pieces (fuel : Nat) {done ps : List Piece} {source : Source}
    (hdone : InOrder done.reverse) (hlast : ∀ p ∈ done.head?, p.last ≤ source.line)
    (h : pieces fuel done source = .ok ps) : InOrder ps := by
  induction fuel generalizing done source with
  | zero =>
    cases h
    exact hdone
  | succ fuel ih =>
    rw [pieces] at h
    cases hchars : source.chars with
    | nil =>
      rw [hchars] at h
      cases h
      exact hdone
    | cons c cs =>
      rw [hchars] at h
      dsimp only at h
      cases hpiece : piece source.line c cs with
      | error fault =>
        rw [hpiece] at h
        cases h
      | ok r =>
        rw [hpiece] at h
        have hspan : source.line ≤ r.2.line := onward_piece c r hpiece
        refine ih ?_ ?_ h
        · rw [List.reverse_cons]
          exact inOrder_concat hdone hspan (by rwa [List.getLast?_reverse])
        · rintro _ ⟨⟩
          exact Nat.le_refl _

end Scan

/-- No script has pieces out of order. -/
theorem scan_inOrder {script : String} {ps : List Piece} (h : scan script = .ok ps) :
    Piece.InOrder ps :=
  Scan.inOrder_pieces _ ⟨by simp, .nil⟩ (by simp) h

/-- **The lexemes of a script** are made of its pieces, and of nothing that has to be remembered. -/
theorem tokenize_eq_lexemes (script : String) :
    tokenize script = (scan script).map Piece.lexemes := by
  rw [tokenize]
  cases hscan : scan script with
  | error e => rfl
  | ok ps =>
    have h := scan_inOrder hscan
    exact congrArg Except.ok
      (Lexeme.ofPieces_behind Lexeme.remembers_nil h.first_le_last h.pairwise)

end SqlLint
