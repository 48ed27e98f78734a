import SqlLint.Proofs.Check.Variables

/-!
# Symbol tables and what has been done to them

A table is changed by three operations: a name is declared, a name is used, and all names are
forgotten. What a table holds is a matter of the operations alone, in the order in which they came.
This module says what that is without a table, on the list of operations, and shows that every table
that comes from the empty one holds just that.

Only the operations behind the last clearing count. Of these, a declaration is the one that matters
for its key if no other declaration of the key follows it, and the symbol has been used if a use of
the key follows it. Declaring a name again hides the uses in between, but the name keeps its place:
names stand in the order of their *first* declarations.

## Main definitions

* `SymbolTable.Operation`, `SymbolTable.run`: operations, and the table that they lead to
* `SymbolTable.Describes`: the symbols of which a list of operations tells
* `SymbolTable.Implements`: every question to a table is answered by the operations

## Main results

* `SymbolTable.Holds.declare`, `SymbolTable.Holds.reference`: what one operation keeps
* `SymbolTable.run_implements`: what any number of them lead to
-/

namespace SqlLint

namespace SymbolTable

/-! ## Operations -/

/-- Marks a name as used, and tells whether it is declared. -/
def tryReference (name : String) (t : SymbolTable) : Bool × SymbolTable :=
  (t.declares name, t.reference name)

/-- What can be done to a table. -/
inductive Operation where
  | declare (name : String) (type : DataType) (line : Nat)
  | reference (name : String)
  | clear
  deriving DecidableEq, Repr

namespace Operation

/-- The table after an operation. -/
def apply (t : SymbolTable) : Operation → SymbolTable
  | declare name type line => t.declare name type line
  | reference name => (t.tryReference name).2
  | clear => empty

/-- The key that the operation declares. -/
def declared? : Operation → Option String
  | declare name _ _ => some (key name)
  | _ => none

/-- The key that the operation uses. -/
def referenced? : Operation → Option String
  | reference name => some (key name)
  | _ => none

end Operation

/-- The table after a list of operations, the first one on the empty table. -/
def run (ops : List Operation) : SymbolTable := ops.foldl Operation.apply empty

/-- The operations behind the last clearing. -/
def sinceClear (ops : List Operation) : List Operation := ops.rtakeWhile (· ≠ .clear)

/-! ## What the operations tell -/

/-- The keys that are declared, in the order of their first declarations. -/
def declaredKeys (ops : List Operation) : List String :=
  (ops.filterMap Operation.declared?).eraseDups

/-- The symbol is that of the last declaration of its key, and it has been used if a use of the key
follows. -/
def Describes (ops : List Operation) (s : Symbol) : Prop :=
  ∃ before after, ops = before ++ .declare s.name s.type s.line :: after ∧
    (∀ op ∈ after, op.declared? ≠ some (key s.name)) ∧
    (s.referenced = true ↔ ∃ op ∈ after, op.referenced? = some (key s.name))

/-- Whatever can be asked of the table is answered by the operations. -/
structure Implements (t : SymbolTable) (ops : List Operation) : Prop where
  /-- There is one symbol for each declared key, in the order of the first declarations. -/
  keys : t.symbols.map (fun s => key s.name) = declaredKeys ops
  symbols : ∀ s ∈ t.symbols, Describes ops s
  tryReference : ∀ name, (t.tryReference name).1 = true ↔
    ∃ op ∈ ops, op.declared? = some (key name)
  get? : ∀ name s, t.get? name = some s ↔ key s.name = key name ∧ Describes ops s
  typeOf? : ∀ name type, t.typeOf? name = some type ↔
    ∃ s, (key s.name = key name ∧ Describes ops s) ∧ s.type = type
  size : t.size = (declaredKeys ops).length
  isEmpty : t.isEmpty = true ↔ ∀ op ∈ ops, op.declared? = none
  /-- The unused symbols are in the order of the first declarations, too. -/
  unreferenced : (t.unreferenced.map fun s => key s.name).Sublist (declaredKeys ops)
  mem_unreferenced : ∀ s, s ∈ t.unreferenced ↔ Describes ops s ∧ s.referenced = false

/-! ## One more operation -/

theorem run_concat (ops : List Operation) (op : Operation) :
    run (ops ++ [op]) = op.apply (run ops) := by
  rw [run, List.foldl_append]
  rfl

theorem sinceClear_clear (ops : List Operation) : sinceClear (ops ++ [.clear]) = [] :=
  List.rtakeWhile_concat_neg _ _ _ (by simp)

theorem sinceClear_concat {op : Operation} (h : op ≠ .clear) (ops : List Operation) :
    sinceClear (ops ++ [op]) = sinceClear ops ++ [op] :=
  List.rtakeWhile_concat_pos _ _ _ (by simpa using h)

theorem declaredKeys_declare (ops : List Operation) (name : String) (type : DataType)
    (line : Nat) :
    declaredKeys (ops ++ [.declare name type line]) =
      if key name ∈ declaredKeys ops then declaredKeys ops
      else declaredKeys ops ++ [key name] := by
  rw [declaredKeys, List.filterMap_append]
  exact eraseDups_concat _ (key name)

theorem declaredKeys_reference (ops : List Operation) (name : String) :
    declaredKeys (ops ++ [.reference name]) = declaredKeys ops := by
  rw [declaredKeys, List.filterMap_append]
  exact congrArg List.eraseDups (List.append_nil _)

/-- An operation with others behind it is the last one, or stands before the last one. -/
theorem concat_eq_append_cons {ops before after : List Operation} {op d : Operation} :
    ops ++ [op] = before ++ d :: after ↔
      (after = [] ∧ ops = before ∧ op = d) ∨
        ∃ after', after = after' ++ [op] ∧ ops = before ++ d :: after' := by
  constructor
  · intro h
    rcases List.eq_nil_or_concat' after with rfl | ⟨after', op', rfl⟩
    · obtain ⟨hops, hop⟩ := List.append_inj' h rfl
      exact .inl ⟨rfl, hops, List.singleton_inj.1 hop⟩
    · rw [← List.cons_append, ← List.append_assoc] at h
      obtain ⟨hops, hop⟩ := List.append_inj' h rfl
      exact .inr ⟨after', by rw [List.singleton_inj.1 hop], hops⟩
  · rintro (⟨rfl, rfl, rfl⟩ | ⟨after', rfl, rfl⟩)
    · rfl
    · simp

/-- A declaration hides the symbol of its key, and no other one. -/
theorem describes_declare {ops : List Operation} {name : String} {type : DataType} {line : Nat}
    {s : Symbol} :
    Describes (ops ++ [.declare name type line]) s ↔
      s = ⟨name, type, line, false⟩ ∨ (key s.name ≠ key name ∧ Describes ops s) := by
  constructor
  · rintro ⟨before, after, hops, hlast, hused⟩
    rcases concat_eq_append_cons.1 hops with ⟨rfl, rfl, hop⟩ | ⟨after', rfl, rfl⟩
    · left
      obtain ⟨rfl, rfl, rfl⟩ := Operation.declare.inj hop
      have hunused : s.referenced = false := by simpa using hused
      rw [← hunused]
    · right
      have hkey := hlast (.declare name type line) (by simp)
      refine ⟨fun h => hkey (congrArg some h.symm), before, after', rfl, ?_, ?_⟩
      · intro op hop
        exact hlast op (List.mem_append_left _ hop)
      · simpa [Operation.referenced?] using hused
  · rintro (rfl | ⟨hkey, before, after, rfl, hlast, hused⟩)
    · exact ⟨ops, [], rfl, by simp, by simp⟩
    · refine ⟨before, after ++ [.declare name type line], by simp, ?_, ?_⟩
      · intro op hop
        rcases List.mem_append.1 hop with hop | hop
        · exact hlast op hop
        · rw [List.mem_singleton.1 hop]
          exact fun h => hkey (Option.some.inj h).symm
      · simpa [Operation.referenced?] using hused

/-- A use marks the symbol of its key, and no other one. -/
theorem describes_reference {ops : List Operation} {name : String} {s : Symbol} :
    Describes (ops ++ [.reference name]) s ↔
      (key s.name ≠ key name ∧ Describes ops s) ∨
        (key s.name = key name ∧ s.referenced = true ∧
          ∃ used, Describes ops { s with referenced := used }) := by
  constructor
  · rintro ⟨before, after, hops, hlast, hused⟩
    rcases concat_eq_append_cons.1 hops with ⟨-, -, hop⟩ | ⟨after', rfl, rfl⟩
    · cases hop
    have hlast' : ∀ op ∈ after', op.declared? ≠ some (key s.name) :=
      fun op hop => hlast op (List.mem_append_left _ hop)
    by_cases hkey : key s.name = key name
    · right
      refine ⟨hkey, hused.2 ⟨.reference name, by simp, congrArg some hkey.symm⟩, ?_⟩
      -- Whether the symbol was marked before this use is for the uses before it to say.
      refine ⟨decide (∃ op ∈ after', op.referenced? = some (key s.name)), before, after', rfl,
        hlast', ?_⟩
      simp
    · left
      refine ⟨hkey, before, after', rfl, hlast', ?_⟩
      rw [hused]
      have hother : Operation.referenced? (.reference name) ≠ some (key s.name) :=
        fun h => hkey (Option.some.inj h).symm
      simp [or_and_right, exists_or, hother]
  · rintro (⟨hkey, before, after, rfl, hlast, hused⟩ |
      ⟨hkey, htrue, used, before, after, rfl, hlast, -⟩)
    · refine ⟨before, after ++ [.reference name], by simp, ?_, ?_⟩
      · simpa [Operation.declared?, or_imp, forall_and] using hlast
      · have hother : Operation.referenced? (.reference name) ≠ some (key s.name) :=
          fun h => hkey (Option.some.inj h).symm
        rw [hused]
        simp [or_and_right, exists_or, hother]
    · refine ⟨before, after ++ [.reference name], by simp, ?_, ?_⟩
      · simpa [Operation.declared?, or_imp, forall_and] using hlast
      · exact iff_of_true htrue ⟨.reference name, by simp, congrArg some hkey.symm⟩

/-! ## The table

Two facts are enough to know a table: its keys in order, and the symbol under each of them. -/

/-- The table has the declared keys in order, and under each of them the symbol of which the
operations tell. -/
structure Holds (ops : List Operation) (t : SymbolTable) : Prop where
  keys : t.entries.map (·.1) = declaredKeys ops
  symbol : ∀ k s, t.entries.lookup k = some s ↔ key s.name = k ∧ Describes ops s

variable {ops : List Operation} {t : SymbolTable}

theorem holds_empty : Holds [] empty := by
  refine ⟨rfl, fun k s => iff_of_false (by simp [empty]) ?_⟩
  rintro ⟨-, before, after, hops, -⟩
  simp at hops

theorem Holds.declare (h : Holds ops t) (name : String) (type : DataType) (line : Nat) :
    Holds (ops ++ [.declare name type line]) (t.declare name type line) := by
  constructor
  · rw [declaredKeys_declare, ← h.keys]
    exact keys_put _ _ _
  · intro k s
    rw [describes_declare]
    by_cases hk : k = key name
    · subst hk
      rw [show (t.declare name type line).entries.lookup (key name) = _ from lookup_put_self _ _ _,
        Option.some.injEq]
      constructor
      · rintro rfl
        exact ⟨rfl, .inl rfl⟩
      · rintro ⟨hkey, rfl | ⟨hne, -⟩⟩
        · rfl
        · exact absurd hkey hne
    · rw [show (t.declare name type line).entries.lookup k = _ from lookup_put_of_ne hk _ _,
        h.symbol]
      constructor
      · rintro ⟨rfl, hs⟩
        exact ⟨rfl, .inr ⟨hk, hs⟩⟩
      · rintro ⟨rfl, rfl | ⟨-, hs⟩⟩
        · exact absurd rfl hk
        · exact ⟨rfl, hs⟩

/-- A use of a key that is not in the table leaves no trace in it, and no symbol is described in
another way. -/
theorem Holds.reference (h : Holds ops t) (name : String) :
    Holds (ops ++ [.reference name]) (t.reference name) := by
  rw [SymbolTable.reference]
  cases hfound : t.get? name with
  | none =>
    have hnone : ∀ s, key s.name = key name → ¬Describes ops s := by
      intro s hkey hs
      rw [SymbolTable.get?, (h.symbol _ s).2 ⟨hkey, hs⟩] at hfound
      cases hfound
    refine ⟨by rw [declaredKeys_reference]; exact h.keys, fun k s => ?_⟩
    rw [h.symbol, describes_reference]
    constructor
    · rintro ⟨rfl, hs⟩
      exact ⟨rfl, .inl ⟨fun hkey => hnone s hkey hs, hs⟩⟩
    · rintro ⟨rfl, ⟨-, hs⟩ | ⟨hkey, -, used, hs⟩⟩
      · exact ⟨rfl, hs⟩
      · exact absurd hs (hnone _ hkey)
  | some s₀ =>
    obtain ⟨hkey₀, hs₀⟩ := (h.symbol _ _).1 hfound
    constructor
    · have hmem : key name ∈ t.entries.map (·.1) := by
        obtain ⟨as, bs, hab, -⟩ := List.lookup_eq_some_iff.1 hfound
        simp [hab]
      rw [declaredKeys_reference, ← h.keys]
      exact (keys_put _ _ _).trans (if_pos hmem)
    · intro k s
      rw [describes_reference]
      by_cases hk : k = key name
      · subst hk
        rw [lookup_put_self, Option.some.injEq]
        constructor
        · rintro rfl
          exact ⟨hkey₀, .inr ⟨hkey₀, rfl, s₀.referenced, hs₀⟩⟩
        · rintro ⟨hkey, ⟨hne, -⟩ | ⟨-, htrue, used, hs⟩⟩
          · exact absurd hkey hne
          · have hsame : t.entries.lookup (key name) = some { s with referenced := used } :=
              (h.symbol _ _).2 ⟨hkey, hs⟩
            obtain rfl := Option.some.inj (hfound.symm.trans hsame)
            rw [← htrue]
      · rw [lookup_put_of_ne hk, h.symbol]
        constructor
        · rintro ⟨rfl, hs⟩
          exact ⟨rfl, .inl ⟨hk, hs⟩⟩
        · rintro ⟨rfl, ⟨-, hs⟩ | ⟨hkey, -⟩⟩
          · exact ⟨rfl, hs⟩
          · exact absurd hkey hk

/-- Any operations lead to the table of which those behind the last clearing tell. -/
theorem holds_run (ops : List Operation) : Holds (sinceClear ops) (run ops) := by
  induction ops using List.reverseRecOn with
  | nil => exact holds_empty
  | append_singleton ops op ih =>
    rw [run_concat]
    cases op with
    | declare name type line =>
      rw [sinceClear_concat Operation.noConfusion]
      exact ih.declare name type line
    | reference name =>
      rw [sinceClear_concat Operation.noConfusion]
      exact ih.reference name
    | clear =>
      rw [sinceClear_clear]
      exact holds_empty

/-! ## Questions to a table -/

theorem mem_declaredKeys {k : String} :
    k ∈ declaredKeys ops ↔ ∃ op ∈ ops, op.declared? = some k := by
  rw [declaredKeys, List.mem_eraseDups, List.mem_filterMap]

theorem Holds.symbols_eq (h : Holds ops t) :
    t.symbols = (declaredKeys ops).filterMap fun k => t.entries.lookup k := by
  rw [← h.keys]
  exact (filterMap_lookup_keys _ (h.keys ▸ nodup_eraseDups _)).symm

/-- A key is declared exactly if there is a symbol under it. -/
theorem Holds.mem_declaredKeys_iff (h : Holds ops t) {k : String} :
    k ∈ declaredKeys ops ↔ (t.entries.lookup k).isSome = true := by
  rw [← h.keys]
  cases hfound : t.entries.lookup k with
  | none =>
    refine iff_of_false (fun hk => ?_) (by simp)
    obtain ⟨entry, hentry, rfl⟩ := List.mem_map.1 hk
    simpa using List.lookup_eq_none_iff.1 hfound entry hentry
  | some s =>
    obtain ⟨as, bs, hab, -⟩ := List.lookup_eq_some_iff.1 hfound
    simp [hab]

theorem Holds.mem_symbols_iff (h : Holds ops t) {s : Symbol} :
    s ∈ t.symbols ↔ Describes ops s := by
  rw [h.symbols_eq, List.mem_filterMap]
  constructor
  · rintro ⟨k, -, hk⟩
    exact ((h.symbol k s).1 hk).2
  · intro hs
    have hfound := (h.symbol (key s.name) s).2 ⟨rfl, hs⟩
    exact ⟨key s.name, h.mem_declaredKeys_iff.2 (by rw [hfound]; rfl), hfound⟩

/-- Every symbol stands under the key of its name. -/
theorem Holds.map_key_symbols (h : Holds ops t) :
    t.symbols.map (fun s => key s.name) = declaredKeys ops := by
  rw [h.symbols_eq, List.map_filterMap]
  conv_rhs => rw [← List.filterMap_some (l := declaredKeys ops)]
  refine List.filterMap_congr fun k hk => ?_
  obtain ⟨s, hs⟩ := Option.isSome_iff_exists.1 (h.mem_declaredKeys_iff.1 hk)
  rw [hs, Option.map_some, ((h.symbol k s).1 hs).1]

theorem Holds.implements (h : Holds ops t) : Implements t ops where
  keys := h.map_key_symbols
  symbols _ := h.mem_symbols_iff.1
  tryReference name := by
    rw [← mem_declaredKeys, h.mem_declaredKeys_iff]
    rfl
  get? name s := h.symbol (key name) s
  typeOf? name type := by
    rw [SymbolTable.typeOf?, Option.map_eq_some_iff]
    exact exists_congr fun s => and_congr_left fun _ => h.symbol (key name) s
  size := by
    rw [← h.keys, List.length_map]
    rfl
  isEmpty := by
    have hkeys : t.isEmpty = (declaredKeys ops).isEmpty := by
      rw [← h.keys, List.isEmpty_map]
      rfl
    rw [hkeys, List.isEmpty_iff, List.eq_nil_iff_forall_not_mem]
    constructor
    · intro hnone op hop
      by_contra hdeclared
      obtain ⟨k, hk⟩ := Option.ne_none_iff_exists'.1 hdeclared
      exact hnone k (mem_declaredKeys.2 ⟨op, hop, hk⟩)
    · intro hnone k hk
      obtain ⟨op, hop, hdeclared⟩ := mem_declaredKeys.1 hk
      rw [hnone op hop] at hdeclared
      cases hdeclared
  unreferenced := by
    rw [← h.map_key_symbols]
    exact List.filter_sublist.map _
  mem_unreferenced s := by
    rw [SymbolTable.unreferenced, List.mem_filter, h.mem_symbols_iff, Bool.not_eq_true']

/-- **A table implements what has been done to it.**

From the empty table, any operations lead to one that answers every question as the operations
behind the last clearing say: it has one symbol for each key declared by them, in the order of the
first declarations, with the name, the type and the line of the last declaration, and marked as used
if a use of the key follows that declaration. -/
theorem run_implements (ops : List Operation) : (run ops).Implements (sinceClear ops) :=
  (holds_run ops).implements

end SymbolTable

end SqlLint
