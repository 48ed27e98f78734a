import SqlLint.Parse.Expr
import SqlLint.Proofs.Parse.Logic
import SqlLint.Proofs.Syntax.Renumber

/-!
# Two runs side by side

Several facts about the readers compare two runs: over lexemes whose lines are numbered in another
way, for another version, with fewer levels of nesting left. The two runs go through the same
grammar, and what has to be said of the grammar is the same each time: as long as the runs are in
step, every reader keeps them in step. This module says it once and for all such comparisons.

A `Pairing` fixes what is compared: the two contexts, which cursors are in step and which failures
correspond. A `Coupling` is a pairing that the primitive steps keep; these laws are all that a
comparison has to bring along. `Coupled L p q` then says that `p` in the first run and `q` in the
second one keep the runs in step and give values linked by `L`.

## Ends of a comparison

A comparison need not go on forever. If the first run has recorded a certain error, or one of the
runs has failed in a certain way, there may be nothing left to show. A pairing says which records
and which failures these are. What a parser does to the cursor afterwards is then of no interest,
except that it must not take a recorded error back; so `Coupled` also says that of `p`.

## Values

Control never depends on the expressions that have been read, so two runs can stay in step while
their trees differ. `Pairing.exact` says whether trees are compared at all. What is taken from
lexemes alone, such as names, always corresponds.

## Main definitions

* `Link`: how values correspond
* `Pairing`, `Coupling`: how two runs are compared
* `Pairing.Coupled`, `Pairing.CoupledAt`: two parsers that keep the runs in step

## Main results

* `Coupled.bind`, `coupled_repeatWhile`: steps in a row, and loops
* `coupled_takeName`, `coupled_takeTypeRef`: the small parts of statements and expressions
-/

namespace SqlLint

/-! ## Values that correspond -/

/-- How the values of two runs correspond. Every value of the first run has a counterpart. -/
structure Link (α : Type) where
  Rel : α → α → Prop
  total : ∀ a, ∃ b, Rel a b

namespace Link

variable {α : Type}

/-- The counterpart of a value is a function of it. -/
def graph (ρ : α → α) : Link α := ⟨fun a b => b = ρ a, fun a => ⟨ρ a, rfl⟩⟩

/-- The counterpart of a value is the value itself. -/
def same : Link α := graph id

/-- The counterpart of a value is a function of it if `c` holds, and anything otherwise. -/
def upTo (c : Prop) (ρ : α → α) : Link α := ⟨fun a b => c → b = ρ a, fun a => ⟨ρ a, fun _ => rfl⟩⟩

/-- A value that may be missing is missing in both runs or in none. -/
def option (L : Link α) : Link (Option α) where
  Rel := Option.Rel L.Rel
  total
    | none => ⟨none, .none⟩
    | some a =>
      let ⟨b, h⟩ := L.total a
      ⟨some b, .some h⟩

end Link

namespace SyntaxError

/-- Something else was needed than what was found. -/
inductive IsMismatch : SyntaxError → Prop
  | unexpected (line : Nat) (near : Token) : IsMismatch (.unexpected line near)
  | expected (line : Nat) (what : Expectation) (found : Option Token) :
    IsMismatch (.expected line what found)

/-- The version read for does not have a feature. -/
inductive IsUnsupported : SyntaxError → Prop
  | intro (line : Nat) (feature : Feature) (version : Version) :
    IsUnsupported (.unsupported line feature version)

theorem IsMismatch.not_isUnsupported {e : SyntaxError} (h : e.IsMismatch) :
    ¬e.IsUnsupported := by
  rintro ⟨⟩
  cases h

end SyntaxError

/-- The features that are calls: a word with an opening parenthesis behind it. -/
def Feature.IsCall (g : Feature) : Prop := g = .iif ∨ g = .tryCast ∨ g = .tryConvert

namespace Parser

/-- The cursor at the end of a run. -/
def cursorOf {α : Type} : EStateM.Result SyntaxError Cursor α → Cursor
  | .ok _ t => t
  | .error _ t => t

/-- An error that has been recorded stays recorded. -/
def KeepsErrors {α : Type} (p : Parser α) : Prop :=
  ∀ s, s.errors ⊆ (cursorOf (p s)).errors

theorem KeepsErrors.bind {α β : Type} {p : Parser α} {f : α → Parser β} (hp : KeepsErrors p)
    (hf : ∀ a, KeepsErrors (f a)) : KeepsErrors (p >>= f) := by
  intro s
  have hp := hp s
  change s.errors ⊆ (cursorOf (EStateM.bind p f s)).errors
  unfold EStateM.bind
  cases hr : p s with
  | ok a t => rw [hr] at hp; exact List.Subset.trans hp (hf a t)
  | error e t => rw [hr] at hp; exact hp

/-- A parser that records nothing and takes nothing back. -/
theorem keepsErrors_of_eq {α : Type} {p : Parser α} (h : ∀ s, (cursorOf (p s)).errors = s.errors) :
    KeepsErrors p := by
  intro s
  rw [h s]
  exact List.Subset.refl _

/-- Where there has been an error, there is one afterwards. -/
theorem KeepsErrors.ne_nil {α : Type} {p : Parser α} (hp : KeepsErrors p) {s : Cursor}
    (hs : s.errors ≠ []) : (cursorOf (p s)).errors ≠ [] := by
  obtain ⟨e, he⟩ := List.exists_mem_of_ne_nil _ hs
  exact List.ne_nil_of_mem (hp s he)

/-- A call that needs the feature `g` comes first. -/
def CallAhead (g : Feature) (ls : List Lexeme) : Prop :=
  ∃ l rest, ls = l :: rest ∧ opensParen rest ∧
    ((g = .iif ∧ l.dispatch? = some .IIF) ∨
      ∃ kind, castKind? l = some kind ∧ kind.feature? = some g)

end Parser

/-- The last line, if lines keep their numbers. -/
theorem Context.endLine_id (cx : Context) : cx.endLine = id cx.endLine := rfl

/-! ## Pairings -/

/-- How two runs are compared. -/
structure Pairing where
  /-- The context of the first run. -/
  first : Context
  /-- The context of the second run. -/
  second : Context
  /-- The number in the second run of a line of the first one. -/
  line : Nat → Nat
  /-- Whether the trees are compared. -/
  exact : Prop
  /-- The cursors are in step. -/
  Step : Cursor → Cursor → Prop
  /-- What is known of the lexemes behind an opening parenthesis. -/
  Opened : List Lexeme → Prop
  /-- A failure of the first run and one of the second correspond, with their cursors. -/
  Fail : SyntaxError → Cursor → SyntaxError → Cursor → Prop
  /-- The records of the first run with which the comparison is over. -/
  overOnRecord : SyntaxError → Prop
  /-- The failures of the first run with which the comparison is over. -/
  overOnFirst : SyntaxError → Prop
  /-- The failures of the second run with which the comparison is over. -/
  overOnSecond : SyntaxError → Prop

namespace Pairing

open SqlLint.Parser

variable {α β : Type} {K : Pairing} {L L' : Link α} {M : Link β}

/-- The two runs have come to corresponding ends, or the comparison is over. -/
inductive Meets (K : Pairing) (L : Link α) :
    EStateM.Result SyntaxError Cursor α → EStateM.Result SyntaxError Cursor α → Prop
  | ok {a b : α} {s t : Cursor} : L.Rel a b → K.Step s t → Meets K L (.ok a s) (.ok b t)
  | error {e e' : SyntaxError} {s t : Cursor} : K.Fail e s e' t →
    Meets K L (.error e s) (.error e' t)
  | recorded {e : SyntaxError} {r r'} : K.overOnRecord e → e ∈ (cursorOf r).errors → Meets K L r r'
  | first {e : SyntaxError} {s : Cursor} {r'} : K.overOnFirst e → Meets K L (.error e s) r'
  | second {e : SyntaxError} {t : Cursor} {r} : K.overOnSecond e → Meets K L r (.error e t)

/-- From cursors in step of which the first one passes a test, two parsers come to corresponding
ends. The first one takes no recorded error back. -/
structure CoupledAt (K : Pairing) (P : Cursor → Prop) (L : Link α) (p q : Parser α) : Prop where
  keeps : KeepsErrors p
  meets : ∀ s t, K.Step s t → P s → K.Meets L (p s) (q t)

/-- From cursors in step, two parsers come to corresponding ends. -/
def Coupled (K : Pairing) (L : Link α) (p q : Parser α) : Prop :=
  K.CoupledAt (fun _ => True) L p q

theorem Meets.mono {r r'} (h : K.Meets L r r') (hL : ∀ a b, L.Rel a b → L'.Rel a b) :
    K.Meets L' r r' := by
  cases h with
  | ok hab hst => exact .ok (hL _ _ hab) hst
  | error hfail => exact .error hfail
  | recorded hover herr => exact .recorded hover herr
  | first hover => exact .first hover
  | second hover => exact .second hover

/-- A comparison that is over with any record. -/
theorem Meets.of_errors_ne_nil {r r'} (hover : ∀ e, K.overOnRecord e)
    (h : (cursorOf r).errors ≠ []) : K.Meets L r r' := by
  obtain ⟨e, he⟩ := List.exists_mem_of_ne_nil _ h
  exact .recorded (hover e) he

/-- In a comparison that is never over, both runs succeed or both fail. -/
theorem Meets.both {r r'} (h : K.Meets L r r') (hrecord : ∀ e, ¬K.overOnRecord e)
    (hfirst : ∀ e, ¬K.overOnFirst e) (hsecond : ∀ e, ¬K.overOnSecond e) :
    (∃ a b s t, r = .ok a s ∧ r' = .ok b t ∧ L.Rel a b ∧ K.Step s t) ∨
      ∃ e e' s t, r = .error e s ∧ r' = .error e' t ∧ K.Fail e s e' t := by
  cases h with
  | ok hab hst => exact .inl ⟨_, _, _, _, rfl, rfl, hab, hst⟩
  | error hfail => exact .inr ⟨_, _, _, _, rfl, rfl, hfail⟩
  | recorded hover => exact absurd hover (hrecord _)
  | first hover => exact absurd hover (hfirst _)
  | second hover => exact absurd hover (hsecond _)

variable {P : Cursor → Prop} {p q : Parser α} {f g : α → Parser β}

theorem Coupled.at (h : K.Coupled L p q) : K.CoupledAt P L p q :=
  ⟨h.keeps, fun s t hst _ => h.meets s t hst trivial⟩

theorem Coupled.run (h : K.Coupled L p q) {s t : Cursor} (hst : K.Step s t) :
    K.Meets L (p s) (q t) :=
  h.meets s t hst trivial

theorem Coupled.mono (h : K.Coupled L p q) (hL : ∀ a b, L.Rel a b → L'.Rel a b) :
    K.Coupled L' p q :=
  ⟨h.keeps, fun _ _ hst _ => (h.run hst).mono hL⟩

/-! ## Building parsers -/

theorem coupled_pure {a b : α} (h : L.Rel a b) : K.Coupled L (pure a) (pure b) :=
  ⟨fun _ => List.Subset.refl _, fun _ _ hst _ => .ok h hst⟩

theorem CoupledAt.bind (hp : K.CoupledAt P L p q)
    (hf : ∀ a b, L.Rel a b → K.Coupled M (f a) (g b)) : K.CoupledAt P M (p >>= f) (q >>= g) := by
  have hkeeps : ∀ a, KeepsErrors (f a) := by
    intro a
    obtain ⟨b, hab⟩ := L.total a
    exact (hf a b hab).keeps
  refine ⟨hp.keeps.bind hkeeps, fun s t hst hs => ?_⟩
  have hmeets := hp.meets s t hst hs
  change K.Meets M (EStateM.bind p f s) (EStateM.bind q g t)
  unfold EStateM.bind
  revert hmeets
  generalize p s = r, q t = r'
  intro hmeets
  cases hmeets with
  | ok hab hst => exact (hf _ _ hab).run hst
  | error hfail => exact .error hfail
  | recorded hover herr =>
    refine .recorded hover ?_
    cases r with
    | ok a u => exact hkeeps a u herr
    | error e u => exact herr
  | first hover => exact .first hover
  | second hover => exact .second hover

theorem Coupled.bind (hp : K.Coupled L p q) (hf : ∀ a b, L.Rel a b → K.Coupled M (f a) (g b)) :
    K.Coupled M (p >>= f) (q >>= g) :=
  CoupledAt.bind hp hf

/-- A step that gives corresponding values whatever becomes of the trees. -/
theorem Coupled.bindGraph {ρ : α → α} (hp : K.Coupled (.graph ρ) p q)
    (hf : ∀ a, K.Coupled M (f a) (g (ρ a))) : K.Coupled M (p >>= f) (q >>= g) :=
  hp.bind fun a b hab => by
    obtain rfl : b = ρ a := hab
    exact hf a

/-- A step that gives the same value in both runs. -/
theorem Coupled.bindSame (hp : K.Coupled .same p q) (hf : ∀ a, K.Coupled M (f a) (g a)) :
    K.Coupled M (p >>= f) (q >>= g) :=
  hp.bindGraph hf

theorem coupledAt_ite {c : Prop} [Decidable c] {p' q' : Parser α} (h : c → K.CoupledAt P L p q)
    (h' : ¬c → K.CoupledAt P L p' q') :
    K.CoupledAt P L (if c then p else p') (if c then q else q') := by
  split
  · next hc => exact h hc
  · next hc => exact h' hc

theorem coupled_ite {c : Prop} [Decidable c] {p' q' : Parser α} (h : c → K.Coupled L p q)
    (h' : ¬c → K.Coupled L p' q') : K.Coupled L (if c then p else p') (if c then q else q') :=
  coupledAt_ite h h'

end Pairing

/-! ## Couplings -/

/-- A pairing that the primitive steps keep. -/
structure Coupling extends Pairing where
  endLine : second.endLine = line first.endLine
  rest : ∀ {s t}, Step s t → t.rest = s.rest.map (Lexeme.renumber line)
  moveTo : ∀ {s t ls}, Step s t → ls <:+ s.rest →
    Step (s.moveTo ls) (t.moveTo (ls.map (Lexeme.renumber line)))
  advance : ∀ {s t} (n : Nat), Step s t → Step (s.advance n) (t.advance n)
  opened : ∀ {s t l ls}, Step s t → s.rest = l :: ls → l.isMark .leftParen → Opened ls
  mismatch : ∀ {e s t}, e.IsMismatch → Step s t → Fail e s (e.renumber line) t
  require : ∀ {g s t}, Step s t → (g.IsCall → Parser.CallAhead g s.rest) →
    toPairing.Meets .same (Parser.require first g s) (Parser.require second g t)

namespace Coupling

open SqlLint.Parser SqlLint.Pairing

variable {α β : Type} (K : Coupling) {L : Link α} {M : Link β} {P : Cursor → Prop}

/-- The lexemes of the second run. -/
abbrev lexemes (ls : List Lexeme) : List Lexeme := ls.map (Lexeme.renumber K.line)

theorem lineAt (ls : List Lexeme) :
    K.second.lineAt (K.lexemes ls) = K.line (K.first.lineAt ls) := by
  cases ls with
  | nil => exact K.endLine
  | cons l ls => rfl

/-! ### Looking and moving -/

/-- Going on after a look at what lies ahead. -/
theorem coupledAt_bind_ahead {f g : List Lexeme → Parser β}
    (hf : ∀ ls, K.CoupledAt (fun s => s.rest = ls) M (f ls) (g (K.lexemes ls))) :
    K.Coupled M (ahead >>= f) (ahead >>= g) := by
  constructor
  · exact fun s => (hf s.rest).keeps s
  · intro s t hst _
    change K.Meets M (f s.rest s) (g t.rest t)
    rw [K.rest hst]
    exact (hf s.rest).meets s t hst rfl

theorem coupled_bind_ahead {f g : List Lexeme → Parser β}
    (hf : ∀ ls, K.Coupled M (f ls) (g (K.lexemes ls))) :
    K.Coupled M (ahead >>= f) (ahead >>= g) :=
  K.coupledAt_bind_ahead fun ls => (hf ls).at

theorem coupled_advance (n : Nat) :
    K.Coupled .same (Parser.advance n) (Parser.advance n) :=
  ⟨keepsErrors_of_eq fun _ => rfl, fun _ _ hst _ => .ok rfl (K.advance n hst)⟩

/-- Moving on to an end piece of what lies ahead. -/
theorem coupledAt_moveTo {ls ms : List Lexeme} (h : ms <:+ ls) :
    K.CoupledAt (fun s => s.rest = ls) .same (Parser.moveTo ms) (Parser.moveTo (K.lexemes ms)) := by
  refine ⟨keepsErrors_of_eq fun _ => rfl, fun s t hst hs => ?_⟩
  subst hs
  exact .ok rfl (K.moveTo hst h)

/-- A test that does not look at lines. -/
theorem coupled_eatIf {test : Lexeme → Bool} (htest : ∀ l, test (l.renumber K.line) = test l) :
    K.Coupled .same (eatIf test) (eatIf test) := by
  constructor
  · refine keepsErrors_of_eq fun s => ?_
    unfold eatIf
    split
    · rfl
    · split <;> rfl
  · intro s t hst _
    have hrest := K.rest hst
    unfold eatIf
    cases hs : s.rest with
    | nil =>
      rw [hs] at hrest
      rw [hrest]
      exact .ok rfl hst
    | cons l ls =>
      rw [hs, List.map_cons] at hrest
      rw [hrest]
      simp only [htest]
      split
      · exact .ok rfl (K.moveTo hst (hs ▸ List.suffix_cons l ls))
      · exact .ok rfl hst

/-- Going on after a test for the next lexeme, and after it with what is known behind it. -/
theorem coupledAt_bind_eatIf {T : Cursor → Prop} {test : Lexeme → Bool}
    (htest : ∀ l, test (l.renumber K.line) = test l) {f g : Bool → Parser β}
    (hpast : ∀ {s t l ls}, K.Step s t → P s → s.rest = l :: ls → test l → T (s.moveTo ls))
    (hyes : K.CoupledAt T M (f true) (g true)) (hno : K.CoupledAt P M (f false) (g false)) :
    K.CoupledAt P M (eatIf test >>= f) (eatIf test >>= g) := by
  have hkeeps : KeepsErrors (eatIf test >>= f) :=
    (K.coupled_eatIf htest).keeps.bind fun found => by
      cases found with
      | true => exact hyes.keeps
      | false => exact hno.keeps
  refine ⟨hkeeps, fun s t hst hs => ?_⟩
  change K.Meets M (EStateM.bind (eatIf test) f s) (EStateM.bind (eatIf test) g t)
  have hrest := K.rest hst
  unfold EStateM.bind eatIf
  cases hls : s.rest with
  | nil =>
    rw [hls] at hrest
    rw [hrest]
    exact hno.meets s t hst hs
  | cons l ls =>
    rw [hls, List.map_cons] at hrest
    rw [hrest]
    simp only [htest]
    by_cases hl : test l
    · rw [if_pos hl, if_pos hl]
      exact hyes.meets _ _ (K.moveTo hst (hls ▸ List.suffix_cons l ls)) (hpast hst hs hls hl)
    · rw [if_neg hl, if_neg hl]
      exact hno.meets s t hst hs

theorem coupled_eat (m : Mark) : K.Coupled .same (eat m) (eat m) :=
  K.coupled_eatIf fun _ => rfl

theorem coupled_eatKeyword (k : Keyword) : K.Coupled .same (eatKeyword k) (eatKeyword k) :=
  K.coupled_eatIf fun _ => rfl

theorem coupled_atNext {test : Lexeme → Bool} (htest : ∀ l, test (l.renumber K.line) = test l) :
    K.Coupled .same (atNext test) (atNext test) := by
  refine ⟨keepsErrors_of_eq fun _ => rfl, fun s t hst _ => ?_⟩
  have hsame : t.rest.head?.any test = s.rest.head?.any test := by
    rw [K.rest hst]
    cases s.rest with
    | nil => rfl
    | cons l ls => exact htest l
  exact .ok hsame hst

/-! ### Failing -/

theorem coupled_expected (what : Expectation) :
    K.Coupled L (expected K.first what) (expected K.second what) := by
  refine ⟨keepsErrors_of_eq fun _ => rfl, fun s t hst _ => ?_⟩
  have herror := K.mismatch
    (.expected (K.first.lineAt s.rest) what (s.rest.head?.map (·.token))) hst
  have hfound : t.rest.head?.map (·.token) = s.rest.head?.map (·.token) := by
    rw [K.rest hst]
    cases s.rest <;> rfl
  unfold expected
  rw [hfound, K.rest hst, K.lineAt]
  exact .error herror

theorem coupled_unexpected : K.Coupled L (unexpected K.first) (unexpected K.second) := by
  constructor
  · refine keepsErrors_of_eq fun s => ?_
    unfold unexpected
    split <;> rfl
  · intro s t hst _
    have hrest := K.rest hst
    unfold unexpected
    cases hs : s.rest with
    | nil =>
      rw [hs] at hrest
      rw [hrest]
      exact (K.coupled_expected .expression).run hst
    | cons l ls =>
      rw [hs, List.map_cons] at hrest
      rw [hrest]
      exact .error (K.mismatch (.unexpected l.line l.token) hst)

theorem keepsErrors_require (cx : Context) (g : Feature) : KeepsErrors (Parser.require cx g) := by
  refine keepsErrors_of_eq fun s => ?_
  unfold Parser.require
  split <;> rfl

theorem coupledAt_require {g : Feature} {ls : List Lexeme} (hg : g.IsCall → CallAhead g ls) :
    K.CoupledAt (fun s => s.rest = ls) .same (Parser.require K.first g)
      (Parser.require K.second g) :=
  ⟨keepsErrors_require K.first g, fun _ _ hst hs => K.require hst fun h => hs ▸ hg h⟩

/-- A feature that is no call is required wherever it is met. -/
theorem coupled_require {g : Feature} (hg : ¬g.IsCall) :
    K.Coupled .same (Parser.require K.first g) (Parser.require K.second g) :=
  ⟨keepsErrors_require K.first g, fun _ _ hst _ => K.require hst fun h => absurd h hg⟩

/-- A lexeme that has to pass a test, in the three forms in which the grammar asks for one. -/
theorem coupled_demand (what : Expectation) {test : Lexeme → Bool}
    (htest : ∀ l, test (l.renumber K.line) = test l) :
    K.Coupled .same (do unless ← eatIf test do expected K.first what)
      (do unless ← eatIf test do expected K.second what) :=
  (K.coupled_eatIf htest).bindSame fun _ =>
    coupled_ite (fun _ => coupled_pure rfl) fun _ => K.coupled_expected what

theorem coupled_expect (m : Mark) : K.Coupled .same (expect K.first m) (expect K.second m) :=
  K.coupled_demand _ fun _ => rfl

theorem coupled_expectKeyword (k : Keyword) :
    K.Coupled .same (expectKeyword K.first k) (expectKeyword K.second k) :=
  K.coupled_demand _ fun _ => rfl

theorem coupled_expectAny (what : Expectation) :
    K.Coupled .same (expectAny K.first what) (expectAny K.second what) :=
  K.coupled_demand _ fun _ => rfl

/-! ### Repeating -/

/-- The two budgets are of one length, so the runs go through the same number of rounds. -/
theorem coupled_rounds {step step' : α → Parser (Option α)}
    (hstep : ∀ a b, L.Rel a b → K.Coupled L.option (step a) (step' b)) :
    ∀ (budget budget' : List Lexeme), budget'.length = budget.length → ∀ a b, L.Rel a b →
      K.Coupled L (rounds step budget a) (rounds step' budget' b)
  | [], [], _, _, _, hab => coupled_pure hab
  | _ :: budget, _ :: budget', hlen, a, b, hab => by
    refine (hstep a b hab).bind fun o o' ho => ?_
    cases ho with
    | none => exact coupled_pure hab
    | some hnext => exact coupled_rounds hstep budget budget' (by simpa using hlen) _ _ hnext

theorem coupled_repeatWhile {step step' : α → Parser (Option α)}
    (hstep : ∀ a b, L.Rel a b → K.Coupled L.option (step a) (step' b)) {a b : α}
    (hab : L.Rel a b) : K.Coupled L (repeatWhile step a) (repeatWhile step' b) := by
  have hrounds := fun s t : Cursor => fun hlen : t.rest.length = s.rest.length =>
    K.coupled_rounds hstep s.rest t.rest hlen a b hab
  refine ⟨fun s => (hrounds s s rfl).keeps s, fun s t hst _ => ?_⟩
  exact (hrounds s t (by rw [K.rest hst, List.length_map])).run hst

theorem coupled_commaSeparated {c : Prop} {ρ : α → α} {item item' : Parser α}
    (hitem : K.Coupled (.upTo c ρ) item item') :
    K.Coupled (.upTo c (List.map ρ)) (commaSeparated item) (commaSeparated item') := by
  unfold commaSeparated
  refine hitem.bind fun a b hab => ?_
  refine Coupled.bind (K.coupled_repeatWhile (L := .upTo c (List.map ρ)) (fun as bs has => ?_) ?_)
    fun as bs has => coupled_pure fun hc => ?_
  · refine (K.coupled_eat .comma).bindSame fun comma => coupled_ite (fun _ => ?_) fun _ => ?_
    · refine hitem.bind fun a b hab => coupled_pure (.some fun hc => ?_)
      rw [has hc, hab hc, List.map_cons]
    · exact coupled_pure .none
  · intro hc
    rw [hab hc, List.map_cons, List.map_nil]
  · rw [has hc, List.map_reverse]

/-! ### Variables, names and types -/

theorem coupled_nextVariable? :
    K.Coupled (.graph (Option.map (Variable.renumber K.line))) nextVariable? nextVariable? := by
  refine K.coupled_bind_ahead fun ls => coupled_pure ?_
  cases ls with
  | nil => rfl
  | cons l ls =>
    change l.variableName?.map _ = (l.variableName?.map _).map _
    rw [Option.map_map]
    rfl

theorem coupled_takeVariable :
    K.Coupled (.graph (Variable.renumber K.line)) (takeVariable K.first)
      (takeVariable K.second) := by
  unfold takeVariable
  refine K.coupled_nextVariable?.bindGraph fun o => ?_
  cases o with
  | none => exact K.coupled_expected .variableName
  | some v => exact (K.coupled_advance 1).bindSame fun _ => coupled_pure rfl

theorem nameTail_lexemes : ∀ ls : List Lexeme,
    nameTail (K.lexemes ls) = ((nameTail ls).1, K.lexemes (nameTail ls).2)
  | [] => rfl
  | [_] => rfl
  | dot :: part :: ls => by
    simp only [List.map_cons, nameTail, Lexeme.namePart?_renumber, Lexeme.isMark_renumber,
      nameTail_lexemes ls]
    cases part.namePart? with
    | none => rfl
    | some text =>
      by_cases hdot : dot.isMark .period
      · simp [hdot]
      · simp [hdot]

theorem nameTail_suffix : ∀ ls : List Lexeme, (nameTail ls).2 <:+ ls
  | [] => List.suffix_refl _
  | [_] => List.suffix_refl _
  | dot :: part :: ls => by
    rw [nameTail]
    split
    · split
      · exact (nameTail_suffix ls).trans ((List.suffix_cons part ls).trans (List.suffix_cons dot _))
      · exact List.suffix_refl _
    · exact List.suffix_refl _

theorem coupled_takeName (what : Expectation) :
    K.Coupled .same (takeName K.first what) (takeName K.second what) := by
  constructor
  · refine keepsErrors_of_eq fun s => ?_
    unfold takeName
    split
    · rfl
    · split <;> rfl
  · intro s t hst _
    have hrest := K.rest hst
    have hfail : K.Meets .same (expected K.first what s : EStateM.Result _ _ (List String))
        (expected K.second what t) := (K.coupled_expected what).run hst
    unfold takeName
    cases hs : s.rest with
    | nil =>
      rw [hs] at hrest
      rw [hrest]
      exact hfail
    | cons l ls =>
      rw [hs, List.map_cons] at hrest
      rw [hrest]
      simp only [Lexeme.namePart?_renumber, K.nameTail_lexemes]
      cases l.namePart? with
      | none => exact hfail
      | some text =>
        have hsuffix := (nameTail_suffix ls).trans (List.suffix_cons l ls)
        exact .ok rfl (K.moveTo hst (hs ▸ hsuffix))

theorem coupled_takeTypeParam :
    K.Coupled .same (takeTypeParam K.first) (takeTypeParam K.second) := by
  unfold takeTypeParam
  refine K.coupled_bind_ahead fun ls => ?_
  have htoken : (K.lexemes ls).head?.map Lexeme.token = ls.head?.map Lexeme.token := by
    cases ls <;> rfl
  rw [htoken]
  split
  · split
    · exact (K.coupled_advance 1).bindSame fun _ => coupled_pure rfl
    · exact K.coupled_expected .length
  · exact coupled_ite (fun _ => (K.coupled_advance 1).bindSame fun _ => coupled_pure rfl)
      fun _ => K.coupled_expected .length
  · exact K.coupled_expected .length

theorem coupled_takeTypeWord (name : String) :
    K.Coupled .same (takeTypeWord name) (takeTypeWord name) := by
  have hword : ∀ (k : Keyword) (long : String),
      K.Coupled .same (do if ← eatKeyword k then return long else return name)
        (do if ← eatKeyword k then return long else return name) :=
    fun k _ => (K.coupled_eatKeyword k).bindSame fun _ =>
      coupled_ite (fun _ => coupled_pure rfl) fun _ => coupled_pure rfl
  unfold takeTypeWord
  exact coupled_ite (fun _ => hword .PRECISION _) fun _ =>
    coupled_ite (fun _ => hword .VARYING _) fun _ => coupled_pure rfl

theorem coupled_takeTypeRef :
    K.Coupled (.graph (TypeRef.renumber K.line)) (takeTypeRef K.first) (takeTypeRef K.second) := by
  unfold takeTypeRef
  refine K.coupled_bind_ahead fun ls => ?_
  simp only [K.lineAt]
  refine (K.coupled_takeName .dataType).bindSame fun parts => ?_
  refine (K.coupled_takeTypeWord (baseName parts)).bindSame fun name => ?_
  refine (K.coupled_eat .leftParen).bindSame fun paren => coupled_ite (fun _ => ?_) fun _ => ?_
  · have hparam : K.Coupled (.upTo True id) (takeTypeParam K.first) (takeTypeParam K.second) :=
      K.coupled_takeTypeParam.mono fun _ _ hab _ => hab
    refine (K.coupled_commaSeparated hparam).bind fun params params' hparams => ?_
    obtain rfl : params' = params := by simpa using hparams trivial
    exact (K.coupled_expect .rightParen).bindSame fun _ => coupled_pure rfl
  · exact coupled_pure rfl

end Coupling

end SqlLint
