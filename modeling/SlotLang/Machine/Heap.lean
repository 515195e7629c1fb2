import SlotLang.Machine.ArrayOp
import SlotLang.Table.Basic

/-!
# Scopes and the heap

A scope binds names to values and routines. The heap holds the arrays and the objects of a run; an
object is a scope of its own. Cells are numbered in the order they are made and are never given
back, so an identity, once handed out, always means the same cell.

A reference to a cell that was never made reads as an empty array or an object without slots and
cannot be written. Evaluation never produces such a reference.
-/

namespace SlotLang

/-- A number for a name. Only that equal names have equal numbers matters. -/
def nameHash (name : String) : Nat :=
  name.toList.foldl (fun sum c => (31 * sum + c.toNat) % 1073741824) 7

/-- A table of bindings: the global scope, the local scope of a call, or an object. -/
abbrev Scope := Table nameHash Binding

/-- The arrays and objects of a run. -/
structure Heap where
  /-- The arrays, by identity. -/
  arrays : Array Elements
  /-- The objects, by identity. -/
  objects : Array Scope

namespace Heap

/-- The heap before anything is made. -/
def empty : Heap :=
  ⟨#[], #[]⟩

/-- The elements of an array. -/
def elements (heap : Heap) (id : ArrayId) : Elements :=
  heap.arrays[id.index]?.getD #[]

/-- The slots of an object. -/
def slots (heap : Heap) (id : ObjectId) : Scope :=
  heap.objects[id.index]?.getD (Table.empty 0)

/-- Make an array. -/
def addArray (heap : Heap) (elements : Elements) : ArrayId × Heap :=
  (⟨heap.arrays.size⟩, { heap with arrays := heap.arrays.push elements })

/-- Make an object. -/
def addObject (heap : Heap) (slots : Scope) : ObjectId × Heap :=
  (⟨heap.objects.size⟩, { heap with objects := heap.objects.push slots })

/-- Change the elements of an array. -/
def updateArray (heap : Heap) (id : ArrayId) (change : Elements → Elements) : Heap :=
  { heap with arrays := heap.arrays.modify id.index change }

/-- Bind a slot of an object. -/
def putSlot (heap : Heap) (id : ObjectId) (name : String) (binding : Binding) : Heap :=
  { heap with objects := heap.objects.modify id.index (·.insert name binding) }

end Heap

end SlotLang
