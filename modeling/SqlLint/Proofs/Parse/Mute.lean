import SqlLint.Proofs.Parse.Coupling

/-!
# Readers that record nothing

Errors are recorded by scans and by lists of statements. The readers of names and types, and the
primitive steps, record nothing; and if they fail, then because something else was needed than what
was found. They are `Mute`. The rules are those for parsers in general, without any knowledge of
the lexemes ahead.

## Main results

* `Mute.bind`, `mute_repeatWhile`: steps in a row, and loops
* `mute_takeName`, `mute_takeTypeRef`: names and types
-/

namespace SqlLint

namespace Parser

variable {α β : Type}

/-- Nothing is recorded, lexemes are passed in order, and a failure is a mismatch. -/
def Mute (p : Parser α) : Prop :=
  ∀ s, Ends p s (fun _ t => t.rest <:+ s.rest ∧ t.errors = s.errors)
    fun e t => t.errors = s.errors ∧ e.IsMismatch

/-! ## Building parsers -/

theorem mute_pure (a : α) : Mute (pure a) := fun _ => ⟨List.suffix_refl _, rfl⟩

theorem Mute.bind {p : Parser α} {f : α → Parser β} (hp : Mute p) (hf : ∀ a, Mute (f a)) :
    Mute (p >>= f) := by
  intro s
  rw [ends_bind]
  refine (hp s).mono (fun a t ht => ?_) fun _ _ he => he
  obtain ⟨hsuffix, herrors⟩ := ht
  rw [← herrors]
  exact (hf a t).mono (fun _ _ hu => ⟨hu.1.trans hsuffix, hu.2⟩) fun _ _ he => he

theorem mute_rounds {step : α → Parser (Option α)} (hstep : ∀ a, Mute (step a)) :
    ∀ (budget : List Lexeme) (a : α), Mute (rounds step budget a)
  | [], a => mute_pure a
  | _ :: budget, a => (hstep a).bind fun o => by
    cases o with
    | none => exact mute_pure a
    | some b => exact mute_rounds hstep budget b

theorem mute_repeatWhile {step : α → Parser (Option α)} (hstep : ∀ a, Mute (step a)) (a : α) :
    Mute (repeatWhile step a) :=
  fun s => mute_rounds hstep s.rest a s

/-! ## Primitive steps -/

theorem mute_ahead : Mute ahead := fun _ => ⟨List.suffix_refl _, rfl⟩

theorem mute_advance (n : Nat) : Mute (advance n) := fun s => ⟨List.drop_suffix n s.rest, rfl⟩

theorem mute_eatIf (test : Lexeme → Bool) : Mute (eatIf test) :=
  fun _ => ends_eatIf ⟨List.suffix_refl _, rfl⟩
    fun l rest hs _ => ⟨hs ▸ List.suffix_cons l rest, rfl⟩

theorem mute_expected (cx : Context) (what : Expectation) : Mute (expected cx what : Parser α) :=
  fun _ => ⟨rfl, .expected _ _ _⟩

theorem mute_unexpected (cx : Context) : Mute (unexpected cx : Parser α) := by
  intro s
  rw [Ends, unexpected]
  cases s.rest with
  | nil => exact ⟨rfl, .expected _ _ _⟩
  | cons l rest => exact ⟨rfl, .unexpected _ _⟩

/-- A lexeme that has to pass a test, in the three forms in which the grammar asks for one. -/
theorem mute_demand (cx : Context) (what : Expectation) (test : Lexeme → Bool) :
    Mute (do unless ← eatIf test do expected cx what) := by
  refine (mute_eatIf test).bind fun found => ?_
  cases found with
  | true => exact mute_pure ()
  | false => exact mute_expected cx what

/-- The same, with what is known of the lexeme. -/
theorem ends_demand_mismatch (cx : Context) (what : Expectation) {test : Lexeme → Bool} {s : Cursor}
    {Q : Unit → Cursor → Prop} {E : SyntaxError → Cursor → Prop}
    (hyes : ∀ l rest, s.rest = l :: rest → test l → Q () (s.moveTo rest))
    (hE : ∀ e, e.IsMismatch → E e s) : Ends (do unless ← eatIf test do expected cx what) s Q E := by
  rw [ends_bind]
  exact ends_eatIf (hE _ (.expected _ _ _)) hyes

theorem mute_commaSeparated {item : Parser α} (hitem : Mute item) : Mute (commaSeparated item) := by
  refine hitem.bind fun first => Mute.bind (mute_repeatWhile (fun items => ?_) _) fun _ =>
    mute_pure _
  refine (mute_eatIf _).bind fun comma => ?_
  cases comma with
  | true => exact hitem.bind fun _ => mute_pure _
  | false => exact mute_pure none

/-! ## Names and types -/

theorem mute_takeName (cx : Context) (what : Expectation) : Mute (takeName cx what) := by
  intro s
  rw [Ends, takeName]
  cases hs : s.rest with
  | nil => exact ⟨rfl, .expected _ _ _⟩
  | cons l rest =>
    simp only
    cases l.namePart? with
    | none => exact ⟨rfl, .expected _ _ _⟩
    | some text => exact ⟨(Coupling.nameTail_suffix rest).trans (List.suffix_cons l rest), rfl⟩

theorem mute_takeTypeParam (cx : Context) : Mute (takeTypeParam cx) := by
  refine mute_ahead.bind fun ls => ?_
  split
  · split
    · exact (mute_advance 1).bind fun _ => mute_pure _
    · exact mute_expected cx _
  · split
    · exact (mute_advance 1).bind fun _ => mute_pure _
    · exact mute_expected cx _
  · exact mute_expected cx _

theorem mute_takeTypeWord (name : String) : Mute (takeTypeWord name) := by
  have hword : ∀ (k : Keyword) (long : String),
      Mute (do if ← eatKeyword k then return long else return name) := by
    refine fun k long => (mute_eatIf _).bind fun found => ?_
    cases found <;> exact mute_pure _
  unfold takeTypeWord
  split
  · exact hword _ _
  · split
    · exact hword _ _
    · exact mute_pure _

theorem mute_takeTypeRef (cx : Context) : Mute (takeTypeRef cx) := by
  refine mute_ahead.bind fun ls => (mute_takeName cx _).bind fun parts => ?_
  refine (mute_takeTypeWord _).bind fun name => (mute_eatIf _).bind fun paren => ?_
  cases paren with
  | true =>
    refine (mute_commaSeparated (mute_takeTypeParam cx)).bind fun params => ?_
    exact (mute_demand cx _ _).bind fun _ => mute_pure _
  | false => exact mute_pure _

theorem mute_skipAllColumns : Mute skipAllColumns := by
  refine mute_ahead.bind fun ls => ?_
  split
  · exact mute_advance 2
  · exact mute_pure ()

end Parser

end SqlLint
