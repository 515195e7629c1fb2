import SlotLang.Table.Buckets

/-!
# Tables

A table is a finite map from names. It serves as a scope and as the slots of an object. Its storage
is a well-formed row of chained buckets; the look-up `get?` is the view through which it is
understood, and the order in which it lists its names means nothing.

Copying a table is copying a value, so a copy and what it was copied from never see each other's
later changes.
-/

namespace SlotLang

/-- A finite map from names to `β`, stored by the given hash. -/
structure Table (hash : String → Nat) (β : Type) where
  /-- The storage. -/
  buckets : Buckets β
  /-- Every entry is where a look-up searches for it, once. -/
  wellFormed : buckets.WellFormed hash

namespace Table

variable {hash : String → Nat} {β : Type}

/-- The number of buckets of a table for which nobody asked for a number. -/
def defaultCapacity : Nat := 11

/-- The empty table with room for about twice `capacity` names before it grows. -/
def empty (capacity : Nat) : Table hash β :=
  ⟨Buckets.empty capacity, Buckets.wellFormed_empty hash capacity⟩

/-- What a name is bound to. -/
def get? (table : Table hash β) (key : String) : Option β :=
  table.buckets.get? hash key

/-- Whether a name is bound. -/
def contains (table : Table hash β) (key : String) : Bool :=
  (table.get? key).isSome

/-- Bind a name, in place of what it was bound to. -/
def insert (table : Table hash β) (key : String) (value : β) : Table hash β :=
  ⟨table.buckets.insert hash key value, Buckets.wellFormed_insert table.wellFormed key value⟩

/-- Forget a name. -/
def erase (table : Table hash β) (key : String) : Table hash β :=
  ⟨table.buckets.erase hash key, Buckets.wellFormed_erase table.wellFormed key⟩

/-- Forget every name and keep the buckets. -/
def clear (table : Table hash β) : Table hash β :=
  ⟨table.buckets.clear, Buckets.wellFormed_clear table.wellFormed⟩

/-- How many names are bound. -/
def size (table : Table hash β) : Nat :=
  table.buckets.size

/-- Whether no name is bound. -/
def isEmpty (table : Table hash β) : Bool :=
  table.size == 0

/-- The bound names, each once, in the order of the storage. -/
def names (table : Table hash β) : List String :=
  table.buckets.entries.map Prod.fst

/-- The bound names in increasing order of their code points. -/
def sortedNames (table : Table hash β) : List String :=
  table.names.mergeSort fun a b => decide (a ≤ b)

/-- Bind a name and tell what it was bound to before. -/
def put (table : Table hash β) (key : String) (value : β) : Option β × Table hash β :=
  (table.get? key, table.insert key value)

/-- Forget a name and tell what it was bound to before. -/
def remove (table : Table hash β) (key : String) : Option β × Table hash β :=
  (table.get? key, table.erase key)

end Table

end SlotLang
