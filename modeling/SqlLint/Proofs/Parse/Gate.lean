import SqlLint.Proofs.Parse.Batch
import SqlLint.Proofs.Parse.Parenthesis
import SqlLint.Proofs.Parse.StatementCoupling

/-!
# Calls that a version does not have, and their reports

`IIF`, `TRY_CAST` and `TRY_CONVERT` are calls that older versions do not have. A batch reports each
of them on its line. Whatever is reported is such a call of the batch. But a call can be reported
more often than it occurs. A failed attempt takes the cursor back and leaves what it has recorded;
and the scan of a fragment records a feature that is missed inside a cast before it goes on behind
the word that begins the cast, where it comes to the same call again.

If no failed attempt leaves such a trace, the reports are some of the calls, each taken at most
once and in their order.

## The account

Reports and calls are compared along the run. In the middle of it, the calls reported so far are
set beside those that lie ahead, and the two together beside the calls of the batch. Passing a
lexeme takes a call away from what lies ahead, and recording a report puts it among those reported,
so the account stays in balance. A step back is the only place where it can be upset. What the
account says is left open: that the calls occur in the batch, where a step back does no harm, or
that they occur there in this order, each as often as here.

The run is compared with itself, so the grammar is not gone through once more.

## Main results

* `reports_subset_calls`: whatever is reported is a call of the batch
* `reports_sublist_calls`: without traces of failed attempts, each call is reported at most once
-/

namespace SqlLint

/-! ## Calls and reports -/

instance (g : Feature) : Decidable g.IsCall :=
  inferInstanceAs (Decidable (g = .iif ∨ g = .tryCast ∨ g = .tryConvert))

/-- A call that needs a feature, and where it stands. -/
structure Call where
  line : Nat
  feature : Feature
  deriving DecidableEq, Repr

/-- The feature that a call of the word needs. -/
def Keyword.gate? : Keyword → Option Feature
  | .IIF => some .iif
  | .TRY_CAST => some .tryCast
  | .TRY_CONVERT => some .tryConvert
  | _ => none

/-- The call that an error reports. -/
def SyntaxError.report? : SyntaxError → Option Call
  | unsupported line g _ => if g.IsCall then some ⟨line, g⟩ else none
  | _ => none

/-- The calls that are reported, in order. -/
def reports (es : List SyntaxError) : List Call := es.filterMap SyntaxError.report?

theorem reports_append_singleton (es : List SyntaxError) (e : SyntaxError) :
    reports (es ++ [e]) = reports es ++ e.report?.toList := by
  rw [reports, List.filterMap_append]
  rfl

namespace Parser

/-- The call that a lexeme begins, `ls` being what follows it. -/
def call? (l : Lexeme) (ls : List Lexeme) : Option Call :=
  if opensParen ls then (l.keyword?.bind Keyword.gate?).map (Call.mk l.line) else none

/-- The calls that need a feature, in order. -/
def calls : List Lexeme → List Call
  | [] => []
  | l :: ls => (call? l ls).toList ++ calls ls

theorem calls_sublist {ls ms : List Lexeme} (h : ms <:+ ls) : (calls ms).Sublist (calls ls) := by
  obtain ⟨before, rfl⟩ := h
  induction before with
  | nil => exact List.Sublist.refl _
  | cons l before ih => exact ih.trans (List.sublist_append_right _ _)

/-- A call whose feature is required is one of the calls. -/
theorem call?_of_callAhead {g : Feature} {ls : List Lexeme} (hascii : ∀ l ∈ ls, l.IsAscii)
    (h : CallAhead g ls) : ∃ l rest, ls = l :: rest ∧ call? l rest = some ⟨l.line, g⟩ := by
  obtain ⟨l, rest, rfl, hopens, hcall⟩ := h
  have hcast : ∀ k kind, CastKind.ofKeyword? k = some kind → k.gate? = kind.feature? := by
    intro k kind hk
    cases k <;> first | (cases hk; rfl) | cases hk
  have hgate : l.keyword?.bind Keyword.gate? = some g := by
    rcases hcall with ⟨rfl, hl⟩ | ⟨kind, hl, hg⟩
    · rw [(hascii l List.mem_cons_self).dispatch?_eq] at hl
      rw [hl]
      rfl
    · obtain ⟨k, hk, hkind⟩ := Option.bind_eq_some_iff.1 hl
      rw [hk, Option.bind_some, hcast k kind hkind, hg]
  exact ⟨l, rest, rfl, by simp [call?, hopens, hgate]⟩

/-- An opening parenthesis of the batch stands directly before the lexemes. -/
def OpenedIn (batch ls : List Lexeme) : Prop := ∃ p, p.isMark .leftParen ∧ p :: ls <:+ batch

/-- No call begins a statement, so recovery does not stop before one. -/
theorem skipToStatement_suffix_of_call? {l : Lexeme} {ls : List Lexeme} {r : Call}
    (h : call? l ls = some r) : skipToStatement 0 (l :: ls) <:+ ls := by
  have hstarts : ∀ k : Keyword, k.gate?.isSome → k.startsStatement = false := by
    intro k
    cases k <;> first | exact fun _ => rfl | exact fun h => absurd h (by decide)
  rw [call?] at h
  split at h
  · obtain ⟨g, hg, -⟩ := Option.map_eq_some_iff.1 h
    obtain ⟨k, hk, hgate⟩ := Option.bind_eq_some_iff.1 hg
    have hplain := Lexeme.isPlain_of_keyword? hk
    have hsemicolon : l.isMark .semicolon = false := by
      rw [Bool.eq_false_iff]
      intro hl
      have hl : l.token = .mark .semicolon := by simpa [Lexeme.isMark] using hl
      rw [Lexeme.keyword?, hl] at hk
      cases hk
    have hstart : l.startsStatement = false := by
      rw [Lexeme.startsStatement, hk, Option.any_some, hstarts k (by simp [hgate])]
    rw [skipToStatement]
    simp only [hplain.noLeft, hplain.noRight, hsemicolon, hstart, Bool.or_self, Bool.and_false]
    exact skipToStatement_suffix 0 ls
  · cases h

end Parser

/-! ## The account -/

/-- An error that is a report is about the call that comes first. -/
def SyntaxError.Blames (e : SyntaxError) (ls : List Lexeme) : Prop :=
  ∀ r ∈ e.report?, ∃ l rest, ls = l :: rest ∧ Parser.call? l rest = some r

/-- What can be said of reports and calls beside the calls of a batch. -/
structure Tally (R : List Call → List Call → Prop) : Prop where
  refl : ∀ cs, R cs cs
  drop : ∀ {as bs bs' cs}, R (as ++ bs) cs → bs'.Sublist bs → R (as ++ bs') cs

theorem tally_subset : Tally (· ⊆ ·) where
  refl := List.Subset.refl
  drop h hbs := by
    obtain ⟨has, hrest⟩ := List.append_subset.1 h
    exact List.append_subset.2 ⟨has, fun _ hb => hrest (hbs.subset hb)⟩

theorem tally_sublist : Tally List.Sublist where
  refl := List.Sublist.refl
  drop h hbs := ((List.Sublist.refl _).append hbs).trans h

namespace Cursor

open SqlLint.Parser

/-- The calls reported and those ahead, beside the calls of the batch. -/
structure Accounts (R : List Call → List Call → Prop)
    (batch : List Lexeme) (s : Cursor) : Prop where
  suffix : s.rest <:+ batch
  tally : R (reports s.errors ++ calls s.rest) (calls batch)

variable {R : List Call → List Call → Prop} {batch : List Lexeme}
  {s t : Cursor} {ls : List Lexeme} {e : SyntaxError}

/-- Nothing is recorded, and lexemes are passed. -/
theorem Accounts.pass (hR : Tally R) (h : s.Accounts R batch) (ht : t.rest <:+ s.rest)
    (herrors : t.errors = s.errors) : t.Accounts R batch := by
  refine ⟨ht.trans h.suffix, ?_⟩
  rw [herrors]
  exact hR.drop h.tally (calls_sublist ht)

/-- Something is recorded, and if it is a report, the call that it is about is passed. -/
theorem Accounts.record (hR : Tally R) (h : s.Accounts R batch) (he : e.Blames s.rest)
    (hls : ls <:+ s.rest) (hpast : e.report?.isSome → ls <:+ s.rest.tail) :
    ((s.record e).moveTo ls).Accounts R batch := by
  refine ⟨hls.trans h.suffix, ?_⟩
  have htally := h.tally
  change R (reports (s.errors ++ [e]) ++ calls ls) (calls batch)
  rw [reports_append_singleton]
  cases hreport : e.report? with
  | none =>
    rw [Option.toList_none, List.append_nil]
    exact hR.drop htally (calls_sublist hls)
  | some r =>
    obtain ⟨l, rest, hs, hcall⟩ := he r hreport
    have hpast : ls <:+ rest := by simpa [hreport, hs] using hpast
    rw [hs, calls, hcall, ← List.append_assoc] at htally
    exact hR.drop htally (calls_sublist hpast)

/-- A cast has been tried, and the word at which it failed is passed. -/
theorem Accounts.note (hR : Tally R) (h : s.Accounts R batch) (he : e.Blames s.rest) :
    ((s.note e).moveTo s.rest.tail).Accounts R batch := by
  cases e with
  | unsupported => exact h.record hR he (List.tail_suffix _) fun _ => List.suffix_refl _
  | _ => exact h.pass hR (List.tail_suffix _) rfl

/-- Recovery passes the call that a report is about. -/
theorem Accounts.recover (hR : Tally R) {start : List Lexeme} (hstart : start <:+ batch)
    (h : s.Accounts R batch) (he : e.Blames s.rest) :
    ((s.record e).moveTo (recoverFrom start s.rest)).Accounts R batch := by
  have hskip := skipToStatement_suffix 0
  unfold recoverFrom
  split
  · refine h.record hR he (hskip _) fun hreport => ?_
    obtain ⟨r, hr⟩ := Option.isSome_iff_exists.1 hreport
    obtain ⟨l, rest, hs, hcall⟩ := he r hr
    rw [hs]
    exact skipToStatement_suffix_of_call? hcall
  · next hlen =>
    -- the failure has passed nothing, and recovery goes on behind the first lexeme
    have hstart : start <:+ s.rest :=
      List.suffix_of_suffix_length_le hstart h.suffix (Nat.le_of_not_lt hlen)
    have hdrop : start.drop 1 <:+ s.rest.tail := by
      obtain ⟨before, hbefore⟩ := hstart
      rw [← hbefore]
      cases before with
      | nil => simp
      | cons l before => exact (List.drop_suffix 1 start).trans (List.suffix_append before start)
    have hnext := (hskip (start.drop 1)).trans hdrop
    exact h.record hR he (hnext.trans (List.tail_suffix _)) fun _ => hnext

end Cursor

/-- A run beside itself, with the account of its reports. -/
def Coupling.accounting (cx : Context) {R : List Call → List Call → Prop}
    (hR : Tally R) {batch : List Lexeme} (hascii : ∀ l ∈ batch, l.IsAscii) : Coupling where
  first := cx
  second := cx
  line := id
  exact := False
  Step s t := t = s ∧ s.Accounts R batch
  Opened := Parser.OpenedIn batch
  Fail e s e' t := e' = e ∧ t = s ∧ s.Accounts R batch ∧ e.Blames s.rest
  overOnRecord _ := False
  overOnFirst _ := False
  overOnSecond _ := False
  endLine := cx.endLine_id
  rest := by
    rintro s _ ⟨rfl, -⟩
    rw [Lexeme.renumber_id_eq_id, List.map_id]
  moveTo := by
    rintro _ s ls ⟨rfl, hs⟩ hls
    rw [Lexeme.renumber_id_eq_id, List.map_id]
    exact ⟨rfl, hs.pass hR hls rfl⟩
  advance := by
    rintro _ s n ⟨rfl, hs⟩
    exact ⟨rfl, hs.pass hR (List.drop_suffix n s.rest) rfl⟩
  opened := by
    rintro _ s l ls ⟨rfl, hs⟩ hrest hl
    exact ⟨l, hl, hrest ▸ hs.suffix⟩
  mismatch := by
    rintro e _ s he ⟨rfl, hs⟩
    refine ⟨e.renumber_id, rfl, hs, fun r hr => ?_⟩
    cases he <;> cases hr
  require := by
    rintro g _ s ⟨rfl, hs⟩ hg
    unfold Parser.require
    split
    · exact .ok rfl ⟨rfl, hs⟩
    · refine .error ⟨rfl, rfl, hs, fun r hr => ?_⟩
      by_cases hcall : g.IsCall
      · obtain ⟨l, rest, hrest, hl⟩ :=
          Parser.call?_of_callAhead (fun l hl => hascii l (hs.suffix.subset hl)) (hg hcall)
        obtain rfl : ⟨l.line, g⟩ = r := by
          simpa [SyntaxError.report?, hcall, hrest, Context.lineAt] using hr
        exact ⟨l, rest, hrest, hl⟩
      · simp [SyntaxError.report?, hcall] at hr

namespace Coupling

open SqlLint.Parser SqlLint.Pairing

variable (cx : Context) {R : List Call → List Call → Prop} (hR : Tally R)
  {batch : List Lexeme} (hascii : ∀ l ∈ batch, l.IsAscii)

/-- The two ways in which an attempt can end. -/
theorem meets_accounting {α : Type} {L : Link α} {r r'}
    (h : (accounting cx hR hascii).Meets L r r') :
    (∃ a b s, r = .ok a s ∧ r' = .ok b s ∧ L.Rel a b ∧ s.Accounts R batch) ∨
      ∃ e s, r = .error e s ∧ r' = .error e s ∧ s.Accounts R batch ∧ e.Blames s.rest := by
  obtain ⟨a, b, s, _, hr, hr', hab, rfl, hs⟩ | ⟨e, _, s, _, hr, hr', rfl, rfl, hs⟩ :=
    h.both (fun _ => id) (fun _ => id) fun _ => id
  · exact .inl ⟨a, b, _, hr, hr', hab, hs⟩
  · exact .inr ⟨_, _, hr, hr', hs⟩

end Coupling

/-! ## Steps back -/

namespace Parser

/-- A step back after a failed attempt leaves the account in balance. -/
structure Rewinds (cx : Context) (R : List Call → List Call → Prop)
    (batch : List Lexeme) : Prop where
  arguments : ∀ {levels s t e}, s.Accounts R batch → t.Accounts R batch →
    OpenedIn batch s.rest →
    listOrQuery cx (expr cx levels) s = .error e t → (t.moveTo s.rest).Accounts R batch
  casts : ∀ {levels kind l ls s t e}, s.Accounts R batch → t.Accounts R batch →
    e.Blames t.rest → s.rest = l :: ls → castKind? l = some kind → opensParen ls →
    takeCast cx (expr cx levels) kind s = .error e t → ((t.note e).moveTo ls).Accounts R batch

variable (cx : Context) {batch : List Lexeme}

/-- A step back does not change which calls are reported. -/
theorem rewinds_subset : Rewinds cx (· ⊆ ·) batch := by
  have hback : ∀ {s t : Cursor} {ls : List Lexeme}, s.Accounts (· ⊆ ·) batch →
      t.Accounts (· ⊆ ·) batch → ls <:+ s.rest → (t.moveTo ls).Accounts (· ⊆ ·) batch := by
    intro s t ls hs ht hls
    obtain ⟨hreported, -⟩ := List.append_subset.1 ht.tally
    obtain ⟨-, hahead⟩ := List.append_subset.1 hs.tally
    have hls' : calls ls ⊆ calls s.rest := (calls_sublist hls).subset
    exact ⟨hls.trans hs.suffix, List.append_subset.2 ⟨hreported, fun _ hr => hahead (hls' hr)⟩⟩
  constructor
  · exact fun hs ht _ _ => hback hs ht (List.suffix_refl _)
  · intro levels kind l ls s t e hs ht he hrest _ _ _
    have hnote := hback hs (ht.note tally_subset he) (hrest ▸ List.suffix_cons l ls)
    exact hnote

/-- An attempt that is given up leaves no trace, wherever in the batch it is made: nothing has been
recorded in it, and a cast has missed no feature but the one it needs itself. -/
structure Quiet (cx : Context) (batch : List Lexeme) : Prop where
  arguments : ∀ {levels s t e}, OpenedIn batch s.rest →
    listOrQuery cx (expr cx levels) s = .error e t → t.errors = s.errors
  casts : ∀ {levels kind l ls s t e}, s.rest <:+ batch → s.rest = l :: ls →
    castKind? l = some kind → opensParen ls → takeCast cx (expr cx levels) kind s = .error e t →
    t.errors = s.errors ∧ (e.IsUnsupported → t.rest = s.rest)

variable {cx}

theorem Quiet.rewinds (h : Quiet cx batch) : Rewinds cx List.Sublist batch where
  arguments := by
    intro levels s t e hs ht hopened herror
    have herrors := h.arguments hopened herror
    exact hs.pass tally_sublist (List.suffix_refl _) herrors
  casts := by
    intro levels kind l ls s t e hs ht he hrest hkind hopens herror
    obtain ⟨herrors, hplace⟩ := h.casts hs.suffix hrest hkind hopens herror
    have hskip : (t.moveTo ls).Accounts List.Sublist batch :=
      hs.pass tally_sublist (hrest ▸ List.suffix_cons l ls) herrors
    cases e with
    | unsupported line g version =>
      have htail : t.rest.tail = ls := by rw [hplace ⟨line, g, version⟩, hrest, List.tail_cons]
      exact htail ▸ ht.note tally_sublist he
    | _ => exact hskip

end Parser

namespace Coupling

open SqlLint.Parser SqlLint.Pairing

variable {cx : Context} {R : List Call → List Call → Prop} (hR : Tally R)
  {batch : List Lexeme} (hascii : ∀ l ∈ batch, l.IsAscii)

theorem attempts_accounting (hrewinds : Rewinds cx R batch) :
    (accounting cx hR hascii).Attempts where
  tooDeep := by
    rintro _ s ⟨rfl, hs⟩
    exact ⟨rfl, rfl, hs, fun r hr => by cases hr⟩
  iif := by
    rintro _ s l ls ⟨rfl, hs⟩ hrest hiif hopens
    have hls : ls <:+ s.rest := hrest ▸ List.suffix_cons l ls
    have htail : s.rest.tail = ls := congrArg List.tail hrest
    simp only [Coupling.lexemes, accounting, Lexeme.renumber_id_eq_id, List.map_id, id]
    refine .ok rfl ⟨rfl, ?_⟩
    unfold Cursor.noteIif
    split
    · exact hs.pass hR hls rfl
    · refine hs.record hR (fun r hr => ?_) hls fun _ => ?_
      · obtain rfl : ⟨l.line, .iif⟩ = r := by
          simpa [SyntaxError.report?, Feature.IsCall] using hr
        have hl : l.keyword? = some .IIF := by simpa [Lexeme.isKeyword] using hiif
        exact ⟨l, ls, hrest, by simp [call?, hopens, hl, Keyword.gate?]⟩
      · exact htail ▸ List.suffix_refl ls
  tried := by
    rintro levels _ s l ls kind found found' hcast ⟨rfl, hs⟩ hrest hkind hopens hfound
    simp only [Coupling.lexemes, accounting, Lexeme.renumber_id_eq_id, List.map_id] at hcast ⊢
    obtain ⟨a, b, t, hr, hr', -, ht⟩ | ⟨e, t, hr, hr', ht, he⟩ :=
      meets_accounting cx hR hascii hcast
    · rw [hr]
      exact .ok (fun h => h.elim) ⟨rfl, ht⟩
    · rw [hr]
      exact .ok (fun h => h.elim) ⟨rfl, hrewinds.casts hs ht he hrest hkind hopens hr⟩
  retried := by
    rintro levels _ s hlist hparen ⟨rfl, hs⟩ hopened
    obtain ⟨a, b, t, hr, hr', hab, ht⟩ | ⟨e, t, hr, hr', ht, -⟩ :=
      meets_accounting cx hR hascii hlist
    · rw [hr, hr']
      exact .ok hab ⟨rfl, ht⟩
    · rw [hr, hr']
      exact hparen.run ⟨rfl, hrewinds.arguments hs ht hopened hr⟩
  recovered := by
    rintro levels _ s done done' hstatement ⟨rfl, hs⟩ hdone
    obtain ⟨a, b, t, hr, hr', -, ht⟩ | ⟨e, t, hr, hr', ht, he⟩ :=
      meets_accounting cx hR hascii hstatement
    · rw [hr, hr']
      exact .ok (fun h => h.elim) ⟨rfl, ht⟩
    · rw [hr, hr']
      exact .ok hdone ⟨rfl, ht.recover hR hs.suffix he⟩

end Coupling

/-! ## Batches -/

theorem tally_parseBatch {R : List Call → List Call → Prop} (hR : Tally R)
    {version : Version} {batch : List Lexeme} (hascii : ∀ l ∈ batch, l.IsAscii)
    (hrewinds : Parser.Rewinds (.ofBatch version batch) R batch) :
    R (reports (parseBatch version batch).2) (Parser.calls batch) := by
  have hcoupled := (Coupling.attempts_accounting hR hascii hrewinds).coupled_topStatements
  have hstart : Cursor.Accounts R batch ⟨batch, []⟩ := ⟨List.suffix_refl _, hR.refl _⟩
  have hmeets := hcoupled.meets ⟨batch, []⟩ ⟨batch, []⟩ ⟨rfl, hstart⟩ trivial
  unfold parseBatch finishBatch
  obtain ⟨ss, -, t, hr, -, -, ht⟩ | ⟨e, t, hr, -⟩ :=
    Coupling.meets_accounting _ hR hascii hmeets
  · replace hr : Parser.topStatements (.ofBatch version batch) ⟨batch, []⟩ = .ok ss t := hr
    rw [hr]
    have hreports := hR.drop ht.tally (List.nil_sublist _)
    rwa [List.append_nil] at hreports
  · exact ((Parser.ends_topStatements _ _).error hr).elim

/-- Whatever is reported is a call of the batch. -/
theorem reports_subset_calls {version : Version} {batch : List Lexeme}
    (hascii : ∀ l ∈ batch, l.IsAscii) :
    reports (parseBatch version batch).2 ⊆ Parser.calls batch :=
  tally_parseBatch tally_subset hascii (Parser.rewinds_subset _)

/-- Without traces of failed attempts, each call is reported at most once. -/
theorem reports_sublist_calls {version : Version} {batch : List Lexeme}
    (hascii : ∀ l ∈ batch, l.IsAscii) (hquiet : Parser.Quiet (.ofBatch version batch) batch) :
    (reports (parseBatch version batch).2).Sublist (Parser.calls batch) :=
  tally_parseBatch tally_sublist hascii hquiet.rewinds

end SqlLint
