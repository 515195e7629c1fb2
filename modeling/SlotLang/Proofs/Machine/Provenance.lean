import Mathlib.Algebra.Order.BigOperators.Group.List
import Mathlib.Algebra.Order.Group.Nat
import SlotLang.Proofs.Machine.Evolution

/-!
# Where routines come from

A call finds its routine in the global scope or in an object. What is bound there was bound there at
the start or was declared since. So if the routines at the start are of some kind, and only such
routines are declared, then only such routines are ever called, however they replace one another.
-/

namespace SlotLang

variable {admitted admitted' : Routine → Prop}

/-- The routines in a scope are all of one kind. Values in it may be any. -/
def Scope.HoldsOnly (admitted : Routine → Prop) (scope : Scope) : Prop :=
  ∀ name routine, scope.get? name = some (.routine routine) → admitted routine

namespace Scope.HoldsOnly

variable {scope : Scope}

/-- Routines of one kind are of every kind that follows from it. -/
theorem mono (imp : ∀ routine, admitted routine → admitted' routine)
    (holds : scope.HoldsOnly admitted) : scope.HoldsOnly admitted' :=
  fun name routine found => imp routine (holds name routine found)

/-- Routines that are of two kinds each are of both. -/
theorem and (holds : scope.HoldsOnly admitted) (holds' : scope.HoldsOnly admitted') :
    scope.HoldsOnly fun routine => admitted routine ∧ admitted' routine :=
  fun name routine found => ⟨holds name routine found, holds' name routine found⟩

/-- An empty scope holds no routine at all. -/
theorem empty (capacity : Nat) : Scope.HoldsOnly admitted (Table.empty capacity) := by
  intro name routine found
  simp at found

/-- Binding a name keeps a scope to routines of one kind, if what is bound is of that kind or no
routine. -/
theorem insert (holds : scope.HoldsOnly admitted) (name : String) {binding : Binding}
    (declared : ∀ routine, binding = .routine routine → admitted routine) :
    Scope.HoldsOnly admitted (Table.insert scope name binding) := by
  intro tested routine found
  rw [Table.get?_insert] at found
  split at found
  · cases found
    exact declared routine rfl
  · exact holds tested routine found

/-- A variable is no routine, so it may be bound without a condition. -/
theorem insert_var (holds : scope.HoldsOnly admitted) (name : String) (value : Value) :
    Scope.HoldsOnly admitted (Table.insert scope name (.var value)) :=
  holds.insert name fun _ same => by cases same

/-- A routine may be bound if it is of that kind. -/
theorem insert_routine (holds : scope.HoldsOnly admitted) (name : String) {routine : Routine}
    (declared : admitted routine) :
    Scope.HoldsOnly admitted (Table.insert scope name (.routine routine)) :=
  holds.insert name fun _ same => by
    cases same
    exact declared

end Scope.HoldsOnly

/-- The routines that can be called are all of one kind. A routine in the local scope cannot: calls
do not look there. -/
structure State.HoldsOnly (admitted : Routine → Prop) (s : State) : Prop where
  /-- Functions are admitted. -/
  globals : s.globals.HoldsOnly admitted
  /-- So are the methods of every object. -/
  objects : ∀ id, (s.heap.slots id).HoldsOnly admitted

namespace State.HoldsOnly

variable {s : State}

/-- In a state as in its scopes, routines of one kind are of every kind that follows from it. -/
theorem mono (imp : ∀ routine, admitted routine → admitted' routine)
    (holds : s.HoldsOnly admitted) : s.HoldsOnly admitted' :=
  ⟨holds.globals.mono imp, fun id => (holds.objects id).mono imp⟩

/-- And routines that are of two kinds each are of both. -/
theorem and (holds : s.HoldsOnly admitted) (holds' : s.HoldsOnly admitted') :
    s.HoldsOnly fun routine => admitted routine ∧ admitted' routine :=
  ⟨holds.globals.and holds'.globals, fun id => (holds.objects id).and (holds'.objects id)⟩

/-! ## What is called -/

/-- What a call of a function finds is in the global scope, and so of the kind that is held
there. -/
theorem function (holds : s.HoldsOnly admitted) {name : String} {routine : Routine}
    (found : s.function name = .ok routine) : admitted routine := by
  unfold State.function at found
  split at found
  · next held =>
    cases found
    exact holds.globals name routine held
  · cases found
  · cases found

/-- What a call of a method finds is in the slots of its receiver, and so of that kind too. -/
theorem method (holds : s.HoldsOnly admitted) {id : ObjectId} {name : String} {routine : Routine}
    (found : s.heap.method id name = .ok routine) : admitted routine := by
  unfold Heap.method at found
  split at found
  · next held =>
    cases found
    exact holds.objects id name routine held
  · cases found
  · cases found

/-! ## What is bound -/

/-- Binding a global variable adds no routine. -/
theorem bindValue (holds : s.HoldsOnly admitted) (name : String) (value : Value) :
    (s.bindGlobal name (.var value)).HoldsOnly admitted :=
  ⟨holds.globals.insert_var name value, holds.objects⟩

/-- Declaring a function adds that one routine, in place of what the name was bound to. -/
theorem bindRoutine (holds : s.HoldsOnly admitted) (name : String) {routine : Routine}
    (declared : admitted routine) : (s.bindGlobal name (.routine routine)).HoldsOnly admitted :=
  ⟨holds.globals.insert_routine name declared, holds.objects⟩

/-- Declaring a variable adds no routine, in whichever scope it is declared. -/
theorem declare (holds : s.HoldsOnly admitted) (name : String) (value : Value) :
    (s.declare name value).HoldsOnly admitted := by
  obtain ⟨scope, _, same⟩ | same := s.declare_cases name value
  · rw [same]
    exact ⟨holds.globals, holds.objects⟩
  · rw [same]
    exact holds.bindValue name value

/-- An assignment may take a routine away, where it is to a global name that a function has, but it
adds none. -/
theorem assign (holds : s.HoldsOnly admitted) {t : State} {name : String} {value : Value}
    (assigned : s.assign name value = .ok t) : t.HoldsOnly admitted := by
  obtain ⟨scope, _, rfl⟩ | rfl := State.assign_cases assigned
  · exact ⟨holds.globals, holds.objects⟩
  · exact holds.bindValue name value

/-- A new object holds routines of the kind if its slots do. -/
theorem addObject (holds : s.HoldsOnly admitted) {slots : Scope}
    (members : slots.HoldsOnly admitted) :
    State.HoldsOnly admitted { s with heap := (s.heap.addObject slots).2 } := by
  refine ⟨holds.globals, fun id => ?_⟩
  have before := holds.objects id
  simp only [Heap.slots, Heap.addObject, Array.getElem?_push] at before ⊢
  split
  · exact members
  · exact before

/-- Writing a value to a slot adds no routine. -/
theorem putSlot (holds : s.HoldsOnly admitted) (id : ObjectId) (name : String) (value : Value) :
    State.HoldsOnly admitted { s with heap := s.heap.putSlot id name (.var value) } := by
  refine ⟨holds.globals, fun tested => ?_⟩
  have before := holds.objects tested
  simp only [Heap.slots, Heap.putSlot, Array.getElem?_modify] at before ⊢
  split
  · cases found : s.heap.objects[tested.index]? with
    | none => exact .empty 0
    | some slots =>
      rw [found] at before
      exact before.insert_var name value
  · exact before

end State.HoldsOnly

/-! ## There are finitely many -/

/-- Whatever is measured of routines, those in a scope do not exceed some bound, because a scope
binds finitely many names. -/
theorem Scope.exists_bound (scope : Scope) (measure : Routine → Nat) :
    ∃ bound, scope.HoldsOnly fun routine => measure routine ≤ bound := by
  let measured (name : String) : Nat :=
    (((scope.get? name).bind Binding.routine?).map measure).getD 0
  refine ⟨(scope.names.map measured).sum, fun name routine found => ?_⟩
  have listed : name ∈ scope.names := (scope.mem_names name).mpr (by simp [found])
  calc measure routine
      = measured name := by simp [measured, found, Binding.routine?]
    _ ≤ (scope.names.map measured).sum := List.le_sum_of_mem (List.mem_map_of_mem listed)

/-- Whatever is measured of routines, those that can be called do not exceed some bound, as there
are finitely many objects. -/
theorem State.exists_bound (s : State) (measure : Routine → Nat) :
    ∃ bound, s.HoldsOnly fun routine => measure routine ≤ bound := by
  choose bound holds using fun scope : Scope => scope.exists_bound measure
  refine ⟨bound s.globals + (s.heap.objects.toList.map bound).sum, ?_, fun id => ?_⟩
  · exact (holds s.globals).mono fun routine small => Nat.le_add_right_of_le small
  · unfold Heap.slots
    cases found : s.heap.objects[id.index]? with
    | none => exact .empty 0
    | some slots =>
      have listed : slots ∈ s.heap.objects.toList :=
        Array.mem_toList_iff.mpr (Array.mem_of_getElem? found)
      have bounded := List.le_sum_of_mem (List.mem_map_of_mem (f := bound) listed)
      exact (holds slots).mono fun routine small => by omega

end SlotLang
