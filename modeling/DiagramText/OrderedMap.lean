/-!
# Maps in insertion order

An `OrderedMap` lists its entries in the order in which their keys were first inserted; inserting a
known key replaces the value and keeps the place.  A `Registry` is such a map from ids, with the
operation `ensure` that creates an entity on the first mention of its id.

1. `OrderedMap` with `get?`, `insert`, `modify` and the views `keys`, `values`.
2. `Registry.ensureUnless`, and `Registry.ensure` for entities that always count as stored.
-/

namespace DiagramText

/-- Pairs of distinct keys and values, in order of insertion. -/
structure OrderedMap (κ α : Type) where
  entries : List (κ × α) := []
deriving Repr, DecidableEq

namespace OrderedMap

variable {κ α : Type} [BEq κ]

/-- The map without entries. -/
def empty : OrderedMap κ α := {}

/-- Puts `v` in the place of the entry for `k`, or at the end if there is none. -/
def insertEntry (k : κ) (v : α) : List (κ × α) → List (κ × α)
  | [] => [(k, v)]
  | (k', v') :: r => if k' == k then (k', v) :: r else (k', v') :: insertEntry k v r

/-- Changes the value stored for `k`. -/
def modifyEntry (k : κ) (f : α → α) : List (κ × α) → List (κ × α)
  | [] => []
  | (k', v') :: r => if k' == k then (k', f v') :: r else (k', v') :: modifyEntry k f r

/-- The value stored for `k`. -/
def get? (m : OrderedMap κ α) (k : κ) : Option α := (m.entries.find? (·.1 == k)).map (·.2)

/-- Whether an entry for `k` is stored. -/
def contains (m : OrderedMap κ α) (k : κ) : Bool := m.entries.any (·.1 == k)

/-- Stores `v` for `k`; a known key keeps its place. -/
def insert (m : OrderedMap κ α) (k : κ) (v : α) : OrderedMap κ α := ⟨insertEntry k v m.entries⟩

/-- Changes the value stored for `k`, if there is one. -/
def modify (m : OrderedMap κ α) (k : κ) (f : α → α) : OrderedMap κ α :=
  ⟨modifyEntry k f m.entries⟩

/-- The number of entries. -/
def size (m : OrderedMap κ α) : Nat := m.entries.length

/-- The keys, in order of insertion. -/
def keys (m : OrderedMap κ α) : List κ := m.entries.map (·.1)

/-- The values, in the order in which their keys were inserted. -/
def values (m : OrderedMap κ α) : List α := m.entries.map (·.2)

/-- Stores every entry of `n` in `m`, one after the other. -/
def insertAll (m n : OrderedMap κ α) : OrderedMap κ α :=
  n.entries.foldl (fun acc e => acc.insert e.1 e.2) m

/-- Changing a value moves no key. -/
@[simp]
theorem keys_modify (m : OrderedMap κ α) (k : κ) (f : α → α) : (m.modify k f).keys = m.keys := by
  obtain ⟨es⟩ := m
  simp only [keys, modify]
  induction es with
  | nil => rfl
  | cons e r ih =>
    obtain ⟨k', v'⟩ := e
    simp only [modifyEntry]
    split <;> simp [ih]

end OrderedMap

/-- Entities by id, in order of first mention. -/
abbrev Registry (α : Type) := OrderedMap String α

namespace Registry

variable {α : Type}

/-- What asking for an entity leads to: the entity, whether it was made for this call, and the
registry afterwards. -/
structure Ensured (α : Type) where
  value : α
  created : Bool
  registry : Registry α

/-- The entity for `id`, made by `make` from the number of stored entities if there is none.  A
stored entity that is `vacant` counts as missing and is made anew in its place. -/
def ensureUnless (vacant : α → Bool) (r : Registry α) (id : String) (make : Nat → α) : Ensured α :=
  match r.get? id with
  | some v =>
    if vacant v then ⟨make r.size, true, r.insert id (make r.size)⟩ else ⟨v, false, r⟩
  | none => ⟨make r.size, true, r.insert id (make r.size)⟩

/-- The registry in which `id` is stored: as before, or made by `make` from its place. -/
def ensure (r : Registry α) (id : String) (make : Nat → α) : Registry α :=
  (r.ensureUnless (fun _ => false) id make).registry

end Registry

end DiagramText
