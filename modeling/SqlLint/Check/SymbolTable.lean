import SqlLint.DataType.Basic
import SqlLint.Text.LowerCase

/-!
# Symbol tables

The variables of a batch, in the order in which their names were first declared. Names are looked
up by their lower case. Declaring a name again replaces what is known about it and leaves its
place in the order.
-/

namespace SqlLint

/-- A declared variable or parameter: its name as written at the declaration, its type, the line
of the declaration, and whether it has been used since. -/
structure Symbol where
  name : String
  type : DataType
  line : Nat
  referenced : Bool
  deriving DecidableEq, Repr

/-- The symbols of a batch under their keys, in the order of first declaration. -/
structure SymbolTable where
  entries : List (String × Symbol)
  deriving DecidableEq, Repr

namespace SymbolTable

/-- The key of a name. -/
def key (name : String) : String := Text.lowerCase name

/-- The table without symbols. -/
def empty : SymbolTable := ⟨[]⟩

/-- The entries with `symbol` under `key`: in the place of the old symbol, or at the end. -/
def put (key : String) (symbol : Symbol) : List (String × Symbol) → List (String × Symbol)
  | [] => [(key, symbol)]
  | (k, s) :: entries =>
    if k == key then (k, symbol) :: entries else (k, s) :: put key symbol entries

/-- The table after a declaration. The symbol is new and not used yet. -/
def declare (name : String) (type : DataType) (line : Nat) (t : SymbolTable) : SymbolTable :=
  ⟨put (key name) ⟨name, type, line, false⟩ t.entries⟩

/-- The symbol of a name. -/
def get? (name : String) (t : SymbolTable) : Option Symbol :=
  t.entries.lookup (key name)

/-- The type of a name. -/
def typeOf? (name : String) (t : SymbolTable) : Option DataType :=
  (t.get? name).map (·.type)

/-- Whether a name is declared. -/
def declares (name : String) (t : SymbolTable) : Bool :=
  (t.get? name).isSome

/-- The table after a use of a name. A name that is not declared leaves no trace. -/
def reference (name : String) (t : SymbolTable) : SymbolTable :=
  match t.get? name with
  | some symbol => ⟨put (key name) { symbol with referenced := true } t.entries⟩
  | none => t

/-- The symbols in the order of first declaration. -/
def symbols (t : SymbolTable) : List Symbol :=
  t.entries.map (·.2)

/-- The number of symbols. -/
def size (t : SymbolTable) : Nat := t.entries.length

/-- Whether there is no symbol. -/
def isEmpty (t : SymbolTable) : Bool := t.entries.isEmpty

/-- The symbols that have not been used, in the order of first declaration. -/
def unreferenced (t : SymbolTable) : List Symbol :=
  t.symbols.filter fun s => !s.referenced

/-! ## Looking up what was put -/

theorem lookup_put_self (k : String) (s : Symbol) (entries : List (String × Symbol)) :
    (put k s entries).lookup k = some s := by
  induction entries with
  | nil => simp [put]
  | cons entry entries ih =>
    obtain ⟨k', s'⟩ := entry
    by_cases h : k' = k
    · simp [put, h]
    · have h' : (k == k') = false := beq_eq_false_iff_ne.2 fun e => h e.symm
      simp [put, h, List.lookup_cons, h', ih]

theorem lookup_put_of_ne {k l : String} (h : l ≠ k) (s : Symbol)
    (entries : List (String × Symbol)) : (put k s entries).lookup l = entries.lookup l := by
  have h' : (l == k) = false := beq_eq_false_iff_ne.2 h
  induction entries with
  | nil => simp [put, List.lookup_cons, h']
  | cons entry entries ih =>
    obtain ⟨k', s'⟩ := entry
    by_cases hk : k' = k
    · subst hk
      simp [put, List.lookup_cons, h']
    · simp [put, hk, List.lookup_cons, ih]

/-- Symbols can be changed before or after they are looked up. -/
theorem lookup_map (h : Symbol → Symbol) (k : String) (entries : List (String × Symbol)) :
    (entries.map fun entry => (entry.1, h entry.2)).lookup k = (entries.lookup k).map h := by
  induction entries with
  | nil => rfl
  | cons entry entries ih =>
    rw [List.map_cons, List.lookup_cons, List.lookup_cons, ih]
    cases k == entry.1 <;> rfl

/-- Symbols can be changed before or after another one is put among them. -/
theorem put_map (h : Symbol → Symbol) (k : String) (s : Symbol)
    (entries : List (String × Symbol)) :
    put k (h s) (entries.map fun entry => (entry.1, h entry.2)) =
      (put k s entries).map fun entry => (entry.1, h entry.2) := by
  induction entries with
  | nil => rfl
  | cons entry entries ih =>
    rw [List.map_cons, put, put, ih]
    cases entry.1 == k <;> rfl

/-- Putting a symbol keeps the keys in their order and adds a new one at the end. -/
theorem keys_put (k : String) (s : Symbol) (entries : List (String × Symbol)) :
    (put k s entries).map (·.1) =
      if k ∈ entries.map (·.1) then entries.map (·.1) else entries.map (·.1) ++ [k] := by
  induction entries with
  | nil => simp [put]
  | cons entry entries ih =>
    obtain ⟨k', s'⟩ := entry
    by_cases hk : k' = k
    · simp [put, hk]
    · have hk' : ¬ k = k' := fun e => hk e.symm
      by_cases hm : k ∈ entries.map (·.1) <;> simp_all [put]

end SymbolTable

end SqlLint
