import SqlLint.Check.Analyzer
import SqlLint.Proofs.Check.Carry
import SqlLint.Proofs.Parse.Renumber
import SqlLint.Proofs.Script.Split

/-!
# What an analysis depends on

Splitting, reading and checking put together, for any analyzer. Two laws say what the findings on a
script do not depend on.

* A batch separator isolates. The findings on a script that is cut by one are the findings on the
  part before it, followed by the findings on the part behind it. Nothing that is declared, switched
  on or left open before the separator is known behind it.
* The number of a line means nothing. Other numbers give the same findings, with the other numbers
  in them.

The second law has a consequence. Numbers that are not those of lines can be moved without changing
the script, hence without changing the findings, so no finding has such a number: every line that is
reported is the line of a lexeme.

## Main results

* `Analyzer.analyzeLexemes_append_separator`: a separator isolates
* `Analyzer.analyzeLexemes_renumber`: the numbers of lines are copied
-/

namespace SqlLint

/-! ## Scripts -/

namespace Script

theorem foldr_append (ss ts : List Script) :
    (ss ++ ts).foldr append ⟨[], []⟩ =
      (ss.foldr append ⟨[], []⟩).append (ts.foldr append ⟨[], []⟩) := by
  induction ss with
  | nil => simp [append]
  | cons s ss ih => simp [append, ih]

/-- The script with other numbers for its lines. -/
def renumber (f : Nat → Nat) (s : Script) : Script where
  batches := s.batches.map (Batch.renumber f)
  errors := s.errors.map (SyntaxError.renumber f)

theorem foldr_renumber (f : Nat → Nat) (ss : List Script) :
    (ss.map (renumber f)).foldr append ⟨[], []⟩ = (ss.foldr append ⟨[], []⟩).renumber f := by
  induction ss with
  | nil => rfl
  | cons s ss ih => rw [List.map_cons, List.foldr_cons, ih]; simp [append, renumber]

theorem ofBatch_renumber (f : Nat → Nat) (version : Version) (batch : List Lexeme) :
    ofBatch version (batch.map (Lexeme.renumber f)) = (ofBatch version batch).renumber f := by
  cases batch with
  | nil => rfl
  | cons l ls =>
    have hbatch := parseBatch_renumber f version (List.cons_ne_nil l ls)
    rw [List.map_cons] at hbatch
    simp [ofBatch, renumber, Batch.renumber, hbatch]

theorem ofLexemes_renumber {f : Nat → Nat} {ls : List Lexeme} (h : Split.Separates f ls)
    (version : Version) :
    ofLexemes version (ls.map (Lexeme.renumber f)) = (ofLexemes version ls).renumber f := by
  have hbatches : (Split.ofLexemes (ls.map (Lexeme.renumber f))).batches =
      (Split.ofLexemes ls).batches.map (List.map (Lexeme.renumber f)) := by
    rw [Split.ofLexemes_renumber h, Split.batches_renumber]
  unfold ofLexemes
  rw [hbatches, List.map_map, ← foldr_renumber, List.map_map]
  exact congrArg (List.foldr append ⟨[], []⟩)
    (List.map_congr_left fun batch _ => ofBatch_renumber f version batch)

end Script

/-! ## Findings -/

namespace Findings

/-- Findings behind other findings. -/
def append (s t : Findings) : Findings :=
  ⟨s.errors ++ t.errors, s.diagnostics ++ t.diagnostics⟩

/-- The findings with other numbers for their lines. -/
def renumber (f : Nat → Nat) (s : Findings) : Findings where
  errors := s.errors.map (SyntaxError.renumber f)
  diagnostics := s.diagnostics.map (Diagnostic.renumber f)

end Findings

namespace Analyzer

variable (a : Analyzer)

theorem diagnostics_append (as bs : List Batch) :
    a.diagnostics (as ++ bs) = a.diagnostics as ++ a.diagnostics bs := by
  simp [diagnostics, select, Diagnostic.keep, Check.script_append_diagnostics]

theorem diagnostics_renumber (f : Nat → Nat) (bs : List Batch) :
    a.diagnostics (bs.map (Batch.renumber f)) = (a.diagnostics bs).map (Diagnostic.renumber f) := by
  unfold diagnostics select Diagnostic.keep
  rw [Check.script_renumber_diagnostics, List.filter_map, List.filter_map]
  rfl

/-- **A batch separator isolates what stands before it from what stands behind it.**

Let `g` be the word `GO` at the start of a line, on which nothing else stands. The batches of the
whole script, its trees and errors and the findings on it are those of the part before `g` followed
by those of the part behind it. -/
theorem analyzeLexemes_append_separator (A B : List Lexeme) (g : Lexeme) (hfirst : g.firstOnLine)
    (hgo : g.isKeyword .GO) (hA : ∀ l ∈ A, l.line < g.line) (hB : ∀ l ∈ B, g.line < l.line) :
    (Split.ofLexemes (A ++ [g] ++ B)).batches =
      (Split.ofLexemes A).batches ++ (Split.ofLexemes B).batches ∧
    Script.ofLexemes a.version (A ++ [g] ++ B) =
      (Script.ofLexemes a.version A).append (Script.ofLexemes a.version B) ∧
    a.analyzeLexemes (A ++ [g] ++ B) = (a.analyzeLexemes A).append (a.analyzeLexemes B) := by
  have hends : Split.endsLine g.line B := by
    cases B with
    | nil => rfl
    | cons n ns =>
      have hline := hB n List.mem_cons_self
      simp only [Split.endsLine, decide_eq_true_eq]
      omega
  have hseparator : Split.isGo g := by simp [Split.isGo, hfirst, hgo]
  have hsplit : Split.ofLexemes (A ++ [g] ++ B) =
      (Split.ofLexemes A).append [g] (Split.ofLexemes B) := by
    rw [List.append_assoc, List.singleton_append]
    exact Split.ofLexemes_append_separator hseparator (fun l hl => Nat.ne_of_gt (hA l hl)) hends
  have hbatches : (Split.ofLexemes (A ++ [g] ++ B)).batches =
      (Split.ofLexemes A).batches ++ (Split.ofLexemes B).batches := by
    rw [hsplit, Split.batches_append]
  have hscript : Script.ofLexemes a.version (A ++ [g] ++ B) =
      (Script.ofLexemes a.version A).append (Script.ofLexemes a.version B) := by
    unfold Script.ofLexemes
    rw [hbatches, List.map_append, Script.foldr_append]
  refine ⟨hbatches, hscript, ?_⟩
  unfold analyzeLexemes
  simp only [hscript]
  exact congrArg (Findings.mk _) (a.diagnostics_append _ _)

/-- A variable is declared before a separator and used behind it. -/
theorem analyzeLexemes_declare_go_print :
    let A : List Lexeme := [⟨.word "DECLARE" none, 1, true⟩, ⟨.word "@n" none, 1, false⟩,
      ⟨.word "INT" none, 1, false⟩]
    let B : List Lexeme := [⟨.word "PRINT" none, 3, true⟩, ⟨.word "@n" none, 3, false⟩]
    let g : Lexeme := ⟨.word "go" none, 2, true⟩
    let a : Analyzer := default
    a.analyzeLexemes (A ++ [g] ++ B) = (a.analyzeLexemes A).append (a.analyzeLexemes B) := by
  intro A B g a
  exact (a.analyzeLexemes_append_separator A B g rfl (by decide) (by decide) (by decide)).2.2

/-- **The numbers of lines are copied and compared for equality, and nothing else.**

Other numbers for the lines of a script, no two lines getting the same one, give the same batches,
trees, errors and diagnostics with the other numbers in them. Every line of an error or a diagnostic
is the line of a lexeme. -/
theorem analyzeLexemes_renumber (ls : List Lexeme) (f : Nat → Nat)
    (hf : ∀ k ∈ ls, ∀ l ∈ ls, f k.line = f l.line → k.line = l.line) :
    (Split.ofLexemes (ls.map (Lexeme.renumber f))).batches =
      (Split.ofLexemes ls).batches.map (List.map (Lexeme.renumber f)) ∧
    Script.ofLexemes a.version (ls.map (Lexeme.renumber f)) =
      (Script.ofLexemes a.version ls).renumber f ∧
    a.analyzeLexemes (ls.map (Lexeme.renumber f)) = (a.analyzeLexemes ls).renumber f ∧
    (∀ e ∈ (a.analyzeLexemes ls).errors, ∃ l ∈ ls, e.line = l.line) ∧
    ∀ d ∈ (a.analyzeLexemes ls).diagnostics, ∃ l ∈ ls, d.line = l.line := by
  have hbatches : (Split.ofLexemes (ls.map (Lexeme.renumber f))).batches =
      (Split.ofLexemes ls).batches.map (List.map (Lexeme.renumber f)) := by
    rw [Split.ofLexemes_renumber hf, Split.batches_renumber]
  have hfindings : ∀ g, Split.Separates g ls →
      a.analyzeLexemes (ls.map (Lexeme.renumber g)) = (a.analyzeLexemes ls).renumber g := by
    intro g hg
    unfold analyzeLexemes
    simp only [Script.ofLexemes_renumber hg]
    exact congrArg (Findings.mk _) (a.diagnostics_renumber g _)
  -- `g` moves exactly the numbers that are not those of lines, so it leaves the script as it is
  let g : Nat → Nat := fun n => if n ∈ ls.map Lexeme.line then n else n + 1
  have hline : ∀ l ∈ ls, g l.line = l.line := fun l hl => if_pos (List.mem_map_of_mem hl)
  have hmoved : ∀ {n}, g n = n → ∃ l ∈ ls, n = l.line := by
    intro n hn
    by_cases hmem : n ∈ ls.map Lexeme.line
    · obtain ⟨l, hl, rfl⟩ := List.mem_map.1 hmem
      exact ⟨l, hl, rfl⟩
    · exact absurd (hn.symm.trans (if_neg hmem)) (by omega)
  have hsame : ls.map (Lexeme.renumber g) = ls := by
    have hlexeme : ∀ l ∈ ls, l.renumber g = id l := by
      intro l hl
      rw [Lexeme.renumber, hline l hl, id]
    rw [List.map_congr_left hlexeme, List.map_id]
  have hfixed := hfindings g fun k hk l hl h => by rwa [hline k hk, hline l hl] at h
  rw [hsame] at hfixed
  refine ⟨hbatches, Script.ofLexemes_renumber hf a.version, hfindings f hf, ?_, ?_⟩
  · have herrors : (a.analyzeLexemes ls).errors.map (SyntaxError.renumber g) =
        (a.analyzeLexemes ls).errors.map id := by
      rw [List.map_id]
      exact (congrArg Findings.errors hfixed).symm
    intro e he
    have := congrArg SyntaxError.line (List.map_inj_left.1 herrors e he)
    exact hmoved ((e.line_renumber g).symm.trans this)
  · have hdiagnostics : (a.analyzeLexemes ls).diagnostics.map (Diagnostic.renumber g) =
        (a.analyzeLexemes ls).diagnostics.map id := by
      rw [List.map_id]
      exact (congrArg Findings.diagnostics hfixed).symm
    intro d hd
    exact hmoved (congrArg Diagnostic.line (List.map_inj_left.1 hdiagnostics d hd))

/-- A script of two lines, moved down by ten. -/
theorem analyzeLexemes_renumber_add_ten :
    let ls : List Lexeme := [⟨.word "PRINT" none, 1, true⟩, ⟨.word "@n" none, 2, true⟩]
    let a : Analyzer := default
    a.analyzeLexemes (ls.map (Lexeme.renumber (· + 10))) =
      (a.analyzeLexemes ls).renumber (· + 10) := by
  intro ls a
  exact (a.analyzeLexemes_renumber ls (· + 10) (by decide)).2.2.1

end Analyzer

end SqlLint
