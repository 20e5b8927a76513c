import ContainerDesk.Number.Binary64

/-!
# Values

The values that settings files, setting checks and engine answers are made of.
Sequences come in two kinds that never equal each other, lists and tuples.  A
table keeps its entries in the order in which their keys first came.

Truth values count as the integers zero and one wherever numbers are compared.
-/

namespace ContainerDesk

inductive Value where
  | null
  | bool (b : Bool)
  | int (n : Int)
  | float (x : Binary64)
  | text (t : Text)
  | bytes (octets : List Octet)
  | list (items : List Value)
  | tuple (items : List Value)
  | table (entries : List (Text × Value))

inductive Kind where
  | null
  | bool
  | int
  | float
  | text
  | bytes
  | list
  | tuple
  | table
deriving DecidableEq

def Kind.name : Kind → Text
  | .null => Text.of "NoneType"
  | .bool => Text.of "bool"
  | .int => Text.of "int"
  | .float => Text.of "float"
  | .text => Text.of "str"
  | .bytes => Text.of "bytes"
  | .list => Text.of "list"
  | .tuple => Text.of "tuple"
  | .table => Text.of "dict"

namespace Value

def kind : Value → Kind
  | .null => .null
  | .bool _ => .bool
  | .int _ => .int
  | .float _ => .float
  | .text _ => .text
  | .bytes _ => .bytes
  | .list _ => .list
  | .tuple _ => .tuple
  | .table _ => .table

/-- Does the value count as true?  Nothing, zero and what is empty do not. -/
def isTruthy : Value → Bool
  | .null => false
  | .bool b => b
  | .int n => n ≠ 0
  | .float x => !x.isZero
  | .text t => !t.isEmpty
  | .bytes octets => !octets.isEmpty
  | .list items => !items.isEmpty
  | .tuple items => !items.isEmpty
  | .table entries => !entries.isEmpty

def orElse (value other : Value) : Value :=
  if value.isTruthy then value else other

/-!
# Equality

Numbers are equal by value across their kinds, sequences of one kind element by
element, tables entry by entry whatever the order.
-/

def sameAtom : Value → Value → Bool
  | .null, .null => true
  | .bool a, .bool b => a = b
  | .bool a, .int n => (if a then 1 else 0) = n
  | .int n, .bool b => n = (if b then 1 else 0)
  | .bool a, .float x => x.equalInt (if a then 1 else 0)
  | .float x, .bool b => x.equalInt (if b then 1 else 0)
  | .int m, .int n => m = n
  | .int m, .float x => x.equalInt m
  | .float x, .int n => x.equalInt n
  | .float x, .float y => x.equal y
  | .text s, .text t => s = t
  | .bytes a, .bytes b => a = b
  | _, _ => false

mutual

def same : Value → Value → Bool
  | .list xs, .list ys => sameItems xs ys
  | .tuple xs, .tuple ys => sameItems xs ys
  | .table xs, .table ys => xs.length = ys.length && sameEntries xs ys
  | x, y => sameAtom x y

def sameItems : List Value → List Value → Bool
  | [], [] => true
  | x :: xs, y :: ys => same x y && sameItems xs ys
  | _, _ => false

def sameEntries : List (Text × Value) → List (Text × Value) → Bool
  | [], _ => true
  | (key, x) :: xs, ys =>
      (match ys.lookup key with
        | some y => same x y
        | none => false) && sameEntries xs ys

end

def isOneOf (value : Value) (allowed : List Value) : Bool :=
  allowed.any value.same

end Value

/-!
# Tables

Tables as lists of entries: a key has one entry, and a new value for it takes the
place of the old one.
-/

/-- The entries with a value put under a key: in its old place, or else at the end. -/
def putEntry {α : Type} (key : Text) (value : α) : List (Text × α) → List (Text × α)
  | [] => [(key, value)]
  | (other, old) :: rest =>
      if other = key then (key, value) :: rest else (other, old) :: putEntry key value rest

theorem keys_putEntry_of_mem {α : Type} {key : Text} (value : α) {entries : List (Text × α)}
    (h : key ∈ entries.map (·.1)) :
    (putEntry key value entries).map (·.1) = entries.map (·.1) := by
  induction entries with
  | nil => simp at h
  | cons entry rest ih =>
      obtain ⟨other, old⟩ := entry
      by_cases hkey : other = key
      · simp [putEntry, hkey]
      · have hrest : key ∈ rest.map (·.1) := by
          rcases List.mem_cons.mp h with h | h
          · exact absurd h.symm hkey
          · exact h
        simp [putEntry, hkey, ih hrest]

theorem keys_putEntry_of_not_mem {α : Type} {key : Text} (value : α)
    {entries : List (Text × α)} (h : key ∉ entries.map (·.1)) :
    (putEntry key value entries).map (·.1) = entries.map (·.1) ++ [key] := by
  induction entries with
  | nil => rfl
  | cons entry rest ih =>
      obtain ⟨other, old⟩ := entry
      have hkey : ¬ other = key := fun hkey => h (List.mem_cons.mpr (Or.inl hkey.symm))
      have hrest : key ∉ rest.map (·.1) := fun hrest => h (List.mem_cons.mpr (Or.inr hrest))
      simp [putEntry, hkey, ih hrest]

theorem mem_putEntry {α : Type} {key : Text} {value : α} {entries : List (Text × α)}
    {entry : Text × α} (h : entry ∈ putEntry key value entries) :
    entry = (key, value) ∨ entry ∈ entries := by
  induction entries with
  | nil => exact .inl (List.mem_singleton.mp h)
  | cons first rest ih =>
      rcases first with ⟨other, old⟩
      unfold putEntry at h
      split at h
      · rcases List.mem_cons.mp h with h | h
        · exact .inl h
        · exact .inr (List.mem_cons_of_mem _ h)
      · rcases List.mem_cons.mp h with h | h
        · exact .inr (h ▸ List.mem_cons_self)
        · rcases ih h with h | h
          · exact .inl h
          · exact .inr (List.mem_cons_of_mem _ h)

theorem lookup_putEntry {α : Type} (key other : Text) (value : α) (entries : List (Text × α)) :
    (putEntry key value entries).lookup other =
      if other = key then some value else entries.lookup other := by
  induction entries with
  | nil =>
      by_cases h : other = key
      · simp [putEntry, h]
      · have hb : (other == key) = false := by simpa using h
        simp [putEntry, List.lookup_cons, h, hb]
  | cons entry rest ih =>
      obtain ⟨first, old⟩ := entry
      by_cases hf : first = key
      · by_cases h : other = key
        · simp [putEntry, hf, h]
        · have hb : (other == key) = false := by simpa using h
          simp [putEntry, List.lookup_cons, hf, h, hb]
      · by_cases h : other = first
        · have hk : ¬ other = key := fun hk => hf (h ▸ hk)
          simp [putEntry, hf, h]
        · have hb : (other == first) = false := by simpa using h
          simp [putEntry, List.lookup_cons, hf, hb, ih]

end ContainerDesk
