import SqlLint.Parse.Statement
import SqlLint.Proofs.Parse.Logic

/-!
# Attempts and what is left of them

Three readers go on after a failure, and each in its own way.

* The scan of a fragment tries to read a cast. If it cannot be read, an unsupported feature is
  recorded, and the scan goes on behind the word that begins the cast.
* The arguments of a call are tried as a list of expressions. If they cannot be read, they are
  scanned from where they begin, and the failure is forgotten.
* A statement of a list that cannot be read is recorded, and reading goes on where a statement can
  begin.

An attempt that is given up has left its own records behind, whatever it was: only the place is
taken back. The equations below say what becomes of an attempt, as a function of its result.
Whatever is proved about attempts goes through them, so that the way in which a failure is caught
has to be looked at only here.

## Main results

* `scanItem_cons`, `callArguments_eq`, `listItem_eq`: the readers as functions of an attempt
-/

namespace SqlLint

namespace Cursor

/-- What is recorded of a failed attempt: that a feature is unsupported, and nothing else. -/
def note (e : SyntaxError) (s : Cursor) : Cursor :=
  match e with
  | .unsupported _ _ _ => s.record e
  | _ => s

theorem errors_subset_record (e : SyntaxError) (s : Cursor) : s.errors ⊆ (s.record e).errors :=
  List.subset_append_left _ _

theorem errors_subset_note (e : SyntaxError) (s : Cursor) : s.errors ⊆ (s.note e).errors := by
  cases e with
  | unsupported => exact errors_subset_record _ s
  | _ => exact List.Subset.refl _

/-- What is recorded at a call of `IIF`. -/
def noteIif (cx : Context) (l : Lexeme) (s : Cursor) : Cursor :=
  if cx.version.supports .iif then s else s.record (.unsupported l.line .iif cx.version)

end Cursor

namespace Parser

/-! ## Items of a scan -/

/-- What a scan makes of a cast that it has tried, `ls` being what follows the first word of the
cast: it is kept, or the word is passed over. -/
def tried (found : List Expr) (ls : List Lexeme) :
    EStateM.Result SyntaxError Cursor Expr → EStateM.Result SyntaxError Cursor (List Expr)
  | .ok e t => .ok (e :: found) t
  | .error e t => .ok found ((t.note e).moveTo ls)

variable (cx : Context) (deeper : Nat → Parser Expr) (found : List Expr) {s : Cursor}

theorem scanItem_nil (hs : s.rest = []) : scanItem cx deeper found s = .ok found (s.advance 1) := by
  simp [scanItem, fragmentItem?, bind, EStateM.bind, ahead, hs, pure, EStateM.pure, advance]

theorem fragmentCast?_eq (kind : CastKind) (start : List Lexeme) (s : Cursor) :
    fragmentCast? cx deeper kind start s =
      match takeCast cx deeper kind s with
      | .ok e t => .ok (some e) t
      | .error e t => .ok none ((t.note e).moveTo start) := by
  unfold fragmentCast?
  change EStateM.tryCatch (EStateM.bind (takeCast cx deeper kind) _) _ s = _
  unfold EStateM.tryCatch EStateM.bind
  cases takeCast cx deeper kind s with
  | ok e t => rfl
  | error e t => cases e <;> rfl

theorem scanItem_cons {l : Lexeme} {ls : List Lexeme} (hs : s.rest = l :: ls) :
    scanItem cx deeper found s =
      match l.variableHere? with
      | some v => .ok (.var v :: found) (s.moveTo ls)
      | none =>
        if opensParen ls then
          if l.isKeyword .IIF then .ok found ((s.noteIif cx l).moveTo ls)
          else
            match castKind? l with
            | some kind => tried found ls (takeCast cx deeper kind s)
            | none => .ok found (s.moveTo ls)
        else .ok found (s.moveTo ls) := by
  have hpast : ∀ t : Cursor, t.rest = l :: ls → t.advance 1 = t.moveTo ls :=
    fun t ht => Cursor.advance_of_rest_eq (show t.rest = [l] ++ ls from ht)
  have hskip : ∀ t : Cursor, t.rest = l :: ls →
      EStateM.bind (advance 1) (fun _ => pure found) t = .ok found (t.moveTo ls) := by
    intro t ht
    rw [← hpast t ht]
    rfl
  unfold scanItem fragmentItem?
  simp only [bind, EStateM.bind, ahead, hs]
  cases l.variableHere? with
  | some v =>
    rw [← hpast s hs]
    rfl
  | none =>
    by_cases hopens : opensParen ls
    · by_cases hiif : l.isKeyword .IIF
      · by_cases hsupports : cx.version.supports .iif
        · simp only [hopens, hiif, hsupports, if_true, Cursor.noteIif]
          exact hskip s hs
        · simp only [hopens, hiif, hsupports, if_true, Cursor.noteIif]
          exact hskip _ hs
      · cases castKind? l with
        | none =>
          simp only [hopens, hiif, if_true]
          exact hskip s hs
        | some kind =>
          simp only [hopens, hiif, if_true, Bool.false_eq_true, if_false, fragmentCast?_eq]
          cases takeCast cx deeper kind s with
          | ok e t => rfl
          | error e t => exact hskip ((t.note e).moveTo (l :: ls)) rfl
    · simp only [hopens]
      exact hskip s hs

/-! ## Arguments and statements -/

/-- What becomes of the arguments of a call that have been tried: they are kept, or scanned from
where they begin. -/
def retried (start : List Lexeme) :
    EStateM.Result SyntaxError Cursor (List Expr) → EStateM.Result SyntaxError Cursor (List Expr)
  | .ok items t => .ok items t
  | .error _ t => parenFragment cx deeper (t.moveTo start)

theorem callArguments_eq :
    callArguments cx deeper = (do
      if ← eat .rightParen then return []
      else fun s => retried cx deeper s.rest (listOrQuery cx deeper s)) := by
  unfold callArguments
  congr 1
  funext closed
  cases closed with
  | true => rfl
  | false =>
    funext s
    change EStateM.tryCatch (listOrQuery cx deeper) _ s =
      retried cx deeper s.rest (listOrQuery cx deeper s)
    unfold EStateM.tryCatch
    cases listOrQuery cx deeper s <;> rfl

/-- Where reading goes on after a statement failed that began at `start` and was left at `rest`. -/
def recoverFrom (start rest : List Lexeme) : List Lexeme :=
  skipToStatement 0 (if rest.length < start.length then rest else start.drop 1)

/-- A statement that fails has begun at a lexeme, and behind this one reading can go on. -/
theorem recover_cons (l : Lexeme) (ls : List Lexeme) (s : Cursor) :
    recover (l :: ls) s = .ok () (s.moveTo (recoverFrom (l :: ls) s.rest)) := by
  change (if (l :: ls).length ≤ s.rest.length then _ else _ : Parser Unit) s = _
  rw [recoverFrom]
  by_cases hpassed : (l :: ls).length ≤ s.rest.length
  · rw [if_pos hpassed, if_neg (Nat.not_lt.2 hpassed)]
    rfl
  · rw [if_neg hpassed, if_pos (Nat.lt_of_not_le hpassed)]
    rfl

/-- What becomes of a statement of a list: it is kept, or its failure is recorded. -/
def recovered (done : List Statement) (start : List Lexeme) :
    EStateM.Result SyntaxError Cursor Statement →
      EStateM.Result SyntaxError Cursor (List Statement)
  | .ok a t => .ok (a :: done) t
  | .error e t => .ok done ((t.record e).moveTo (recoverFrom start t.rest))

theorem listItem_eq (statement : Parser Statement) (done : List Statement) {s : Cursor}
    {l : Lexeme} {ls : List Lexeme} (hs : s.rest = l :: ls) :
    listItem statement done s = recovered done (l :: ls) (statement s) := by
  change EStateM.tryCatch (EStateM.bind statement _) _ s = _
  unfold EStateM.tryCatch EStateM.bind
  rw [hs]
  cases statement s with
  | ok a t => rfl
  | error e t =>
    change EStateM.bind (recover (l :: ls)) _ (t.record e) = _
    rw [EStateM.bind, recover_cons]
    rfl

end Parser

end SqlLint
