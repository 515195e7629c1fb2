import SlotLang.Machine.Lookup
import SlotLang.Proofs.Table.Lookup

/-!
# The shape of a heap

The shape of an object is the names of its slots, and for each of them whether it holds a value or
which routine it holds. The shape of an array is its length. A later heap keeps the shape of an
earlier one if what existed still exists and has the shape it had; it may hold more.

Writing a slot that holds a value keeps the shape. Being told that the slot holds a value may have
happened in an earlier heap: a slot of which the shape is kept still holds one.
-/

namespace SlotLang

/-- The routine that a name is bound to, if it is bound to a routine and not to a value. This is the
part of a slot that never changes. -/
def Binding.routine? : Binding → Option Routine
  | .var _ => none
  | .routine declared => some declared

namespace Heap

/-- What a slot is: nothing if there is no such slot, else the routine that it holds, or the absence
of one if it holds a value. -/
def slotShape (heap : Heap) (id : ObjectId) (name : String) : Option (Option Routine) :=
  ((heap.slots id).get? name).map Binding.routine?

/-- Whatever existed still exists and has the shape it had: arrays their length, and objects their
slots, each of its kind. -/
structure KeepsShape (heap later : Heap) : Prop where
  /-- No array is lost. -/
  arrayCount : heap.arrays.size ≤ later.arrays.size
  /-- Arrays keep their lengths. -/
  lengths : ∀ id : ArrayId, id.index < heap.arrays.size →
    (later.elements id).size = (heap.elements id).size
  /-- No object is lost. -/
  objectCount : heap.objects.size ≤ later.objects.size
  /-- Objects keep their slots, slots that hold values keep holding values, and methods stay. -/
  slots : ∀ id : ObjectId, id.index < heap.objects.size →
    ∀ name, later.slotShape id name = heap.slotShape id name

/-- A slot holds a value exactly if its shape is that of a variable. -/
theorem slotShape_eq_some_none {heap : Heap} {id : ObjectId} {name : String} :
    heap.slotShape id name = some none ↔
      ∃ value, (heap.slots id).get? name = some (.var value) := by
  unfold slotShape
  cases (heap.slots id).get? name with
  | none => simp
  | some binding => cases binding <;> simp [Binding.routine?]

/-- Only an object that exists has slots. -/
theorem index_lt_of_get? {heap : Heap} {id : ObjectId} {name : String} {binding : Binding}
    (bound : (heap.slots id).get? name = some binding) : id.index < heap.objects.size := by
  by_cases inside : id.index < heap.objects.size
  · exact inside
  · simp [slots, inside] at bound

namespace KeepsShape

/-- A heap to which nothing happens keeps its shape. -/
theorem refl (heap : Heap) : heap.KeepsShape heap :=
  ⟨Nat.le_refl _, fun _ _ => rfl, Nat.le_refl _, fun _ _ _ => rfl⟩

/-- Shape that is kept in two stages is kept. -/
theorem trans {heap later latest : Heap} (first : heap.KeepsShape later)
    (second : later.KeepsShape latest) : heap.KeepsShape latest where
  arrayCount := Nat.le_trans first.arrayCount second.arrayCount
  lengths := fun id inside =>
    (second.lengths id (Nat.lt_of_lt_of_le inside first.arrayCount)).trans (first.lengths id inside)
  objectCount := Nat.le_trans first.objectCount second.objectCount
  slots := fun id inside name =>
    (second.slots id (Nat.lt_of_lt_of_le inside first.objectCount) name).trans
      (first.slots id inside name)

/-- A slot that held a value still holds one. -/
theorem holds_value {heap later : Heap} (kept : heap.KeepsShape later) {id : ObjectId}
    {name : String} {value : Value} (held : (heap.slots id).get? name = some (.var value)) :
    ∃ now, (later.slots id).get? name = some (.var now) := by
  have inside := index_lt_of_get? held
  rw [← slotShape_eq_some_none, kept.slots id inside name]
  exact slotShape_eq_some_none.mpr ⟨value, held⟩

end KeepsShape

/-! ## Operations on the heap -/

/-- A new array leaves those there are as they are. -/
theorem keepsShape_addArray (heap : Heap) (elements : Elements) :
    heap.KeepsShape (heap.addArray elements).2 := by
  refine ⟨by simp [addArray], ?_, Nat.le_refl _, fun _ _ _ => rfl⟩
  intro id inside
  have older : id.index ≠ heap.arrays.size := by omega
  simp [addArray, Heap.elements, Array.getElem?_push, older]

/-- So does a new object. -/
theorem keepsShape_addObject (heap : Heap) (scope : Scope) :
    heap.KeepsShape (heap.addObject scope).2 := by
  refine ⟨Nat.le_refl _, fun _ _ => rfl, by simp [addObject], ?_⟩
  intro id inside name
  have older : id.index ≠ heap.objects.size := by omega
  simp [addObject, slotShape, Heap.slots, Array.getElem?_push, older]

/-- An operator of an array changes no length. -/
theorem size_update (op : ArrayOp) (operands : List Int64) (elements : Elements) :
    (op.update operands elements).size = elements.size := by
  unfold ArrayOp.update
  split
  · unfold Elements.write
    split
    · exact Array.size_setIfInBounds
    · rfl
  · rfl

/-- An operator changes the elements of an array and never their number. All other cells stay as
they are. -/
theorem keepsShape_updateArray (heap : Heap) (id : ArrayId) (op : ArrayOp)
    (operands : List Int64) : heap.KeepsShape (heap.updateArray id (op.update operands)) := by
  refine ⟨by simp [updateArray], ?_, Nat.le_refl _, fun _ _ _ => rfl⟩
  intro tested inside
  simp only [updateArray, elements, Array.getElem?_modify, Array.getElem?_eq_getElem inside]
  split
  · exact size_update op operands _
  · rfl

/-- Writing a slot binds it in the object that is written. -/
theorem slots_putSlot_self {heap : Heap} {id : ObjectId} (inside : id.index < heap.objects.size)
    (name : String) (binding : Binding) :
    (heap.putSlot id name binding).slots id = (heap.slots id).insert name binding := by
  simp only [putSlot, Heap.slots, Array.getElem?_modify, if_true,
    Array.getElem?_eq_getElem inside, Option.map_some, Option.getD_some]

/-- And it leaves every other object alone. -/
theorem slots_putSlot_other (heap : Heap) {id other : ObjectId} (different : id.index ≠ other.index)
    (name : String) (binding : Binding) :
    (heap.putSlot id name binding).slots other = heap.slots other := by
  simp only [putSlot, Heap.slots, Array.getElem?_modify, different, if_false]

/-- Writing a slot that holds a value keeps the shape. It is needed that there is such a slot, since
else one would be added or a method lost. -/
theorem keepsShape_putSlot {heap : Heap} {id : ObjectId} {name : String} {old : Value}
    (held : (heap.slots id).get? name = some (.var old)) (value : Value) :
    heap.KeepsShape (heap.putSlot id name (.var value)) := by
  refine ⟨Nat.le_refl _, fun _ _ => rfl, by simp [putSlot], ?_⟩
  intro tested inside other
  by_cases same : id.index = tested.index
  · obtain rfl : id = tested := by
      cases id
      cases tested
      exact congrArg ObjectId.mk same
    rw [slotShape, slots_putSlot_self inside, Table.get?_insert]
    split
    · next same =>
      subst same
      exact (slotShape_eq_some_none.mpr ⟨old, held⟩).symm
    · rfl
  · rw [slotShape, slots_putSlot_other heap same]
    rfl

end Heap

end SlotLang
