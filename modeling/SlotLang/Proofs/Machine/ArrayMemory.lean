import SlotLang.Machine.Eval
import SlotLang.Proofs.Machine.Shape

/-!
# Arrays as memory

An array is sent any number of requests, and some of them are refused. A refused request leaves the
state as it is. The others leave every element alone but the one that a `set` names. So an element
is what was last written to it, and the initial value before that.
-/

namespace SlotLang

/-! ## Indices -/

/-- An index is known by its number, as long as it is not negative: all negative ones would have the
same. -/
theorem toNatClampNeg_eq_iff {index other : Int64} (nonNegative : 0 ≤ index)
    (nonNegative' : 0 ≤ other) : index.toNatClampNeg = other.toNatClampNeg ↔ index = other := by
  rw [Int64.le_iff_toInt_le, Int64.toInt_zero] at nonNegative nonNegative'
  rw [← Int64.toInt_inj]
  simp only [Int64.toNatClampNeg]
  omega

namespace Elements

variable {elements : Elements} {index : Int64}

/-- What is read at an index is an element or a refusal. The refusal says the index and the length
of the array. -/
theorem read_eq (elements : Elements) (index : Int64) :
    elements.read index =
      if elements.hasIndex index then .ok (elements[index.toNatClampNeg]?.getD 0)
      else .error (.indexOutOfBounds index elements.size) := by
  by_cases nonNegative : 0 ≤ index
  · by_cases inside : index.toNatClampNeg < elements.size
    · simp [read, hasIndex, nonNegative, inside]
    · simp [read, hasIndex, nonNegative, inside]
  · simp [read, hasIndex, nonNegative]

/-- The indices of an array are the numbers from zero to its length. This holds of every 64-bit
integer, the negative ones included. -/
theorem hasIndex_iff {length : Int64} (nonNegative : 0 ≤ length)
    (size : elements.size = length.toNatClampNeg) :
    elements.hasIndex index = true ↔ 0 ≤ index ∧ index < length := by
  rw [hasIndex, size, Bool.and_eq_true, decide_eq_true_eq, decide_eq_true_eq]
  apply and_congr_right
  intro fromZero
  rw [Int64.le_iff_toInt_le, Int64.toInt_zero] at nonNegative fromZero
  rw [Int64.lt_iff_toInt_lt]
  simp only [Int64.toNatClampNeg]
  omega

/-- A write changes the element at its index, if there is one, and no other. -/
theorem getElem?_write (has : elements.hasIndex index = true) (target value : Int64) :
    (elements.write target value)[index.toNatClampNeg]? =
      if target = index then some value else elements[index.toNatClampNeg]? := by
  simp only [hasIndex, Bool.and_eq_true, decide_eq_true_eq] at has
  obtain ⟨nonNegative, inside⟩ := has
  by_cases targetFromZero : 0 ≤ target
  · simp only [write, targetFromZero, if_true, Array.getElem?_setIfInBounds,
      toNatClampNeg_eq_iff targetFromZero nonNegative]
    split_ifs <;> simp_all
  · have other : target ≠ index := fun same => targetFromZero (same ▸ nonNegative)
    simp only [write, targetFromZero, if_false, other]

end Elements

/-! ## The state after requests -/

/-- A change of an array is a change of its elements, if there is such an array. Otherwise the heap
stays as it is. -/
theorem Heap.elements_updateArray {heap : Heap} {id : ArrayId}
    (inside : id.index < heap.arrays.size) (change : Elements → Elements) :
    (heap.updateArray id change).elements id = change (heap.elements id) := by
  simp only [updateArray, elements, Array.getElem?_modify, Array.getElem?_eq_getElem inside,
    if_true, Option.map_some, Option.getD_some]

/-- A change that changes nothing. -/
theorem Heap.updateArray_self (heap : Heap) (id : ArrayId) :
    heap.updateArray id (fun elements => elements) = heap := by
  have same : heap.arrays.modify id.index (fun elements => elements) = heap.arrays := by
    apply Array.ext_getElem?
    intro index
    simp [Array.getElem?_modify]
  rw [updateArray, same]

/-- An array that is made is where its identity says. -/
theorem Heap.elements_addArray {heap later : Heap} {elements : Elements} {id : ArrayId}
    (made : heap.addArray elements = (id, later)) :
    id.index < later.arrays.size ∧ later.elements id = elements := by
  cases made
  simp [Heap.elements]

/-- An operator of an array and the operands that it is given, as many as there may be. Too few or
too many are among them, since these can be asked for. -/
structure ArrayRequest where
  /-- The operator. -/
  op : ArrayOp
  /-- The operands. -/
  operands : List Int64

namespace ArrayRequest

/-- What a request is to write at an index. Only `set` writes anything, and only at the index that
it names. -/
def written (index : Int64) : ArrayRequest → Option Int64
  | ⟨.set, [target, value]⟩ => if target = index then some value else none
  | _ => none

section Serving

variable (id : ArrayId)

/-- Whether an array in a state answers a request with a value. If it is refused, it has written
nothing. -/
def accepted (s : State) (request : ArrayRequest) : Bool :=
  match Eval.applyElements id request.op request.operands s with
  | .done _ _ => true
  | .failed _ _ | .interrupted => false

/-- The state after a request, whether it is accepted or refused. -/
def next (s : State) (request : ArrayRequest) : State :=
  match Eval.applyElements id request.op request.operands s with
  | .done _ later | .failed _ later => later
  | .interrupted => s

/-- The state after a history of requests. -/
def after (s : State) (history : List ArrayRequest) : State :=
  history.foldl (next id) s

/-- What the latest accepted `set` of a history wrote at an index. None if there was no such
request. -/
def lastWritten (index : Int64) : State → List ArrayRequest → Option Int64
  | _, [] => none
  | s, request :: rest =>
    (lastWritten index (next id s request) rest).or
      (if accepted id s request then written index request else none)

end Serving

variable {id : ArrayId} {s : State} {index : Int64}

/-- An accepted request writes what it is to write, and no other element. -/
theorem getElem?_update {elements : Elements} (has : elements.hasIndex index = true)
    (request : ArrayRequest) :
    (request.op.update request.operands elements)[index.toNatClampNeg]? =
      (request.written index).or elements[index.toNatClampNeg]? := by
  unfold ArrayOp.update written
  split
  · next op operands target value isSet isPair =>
    obtain ⟨_, _⟩ := request
    subst isSet isPair
    change (elements.write target value)[index.toNatClampNeg]? =
      (if target = index then some value else none).or elements[index.toNatClampNeg]?
    rw [Elements.getElem?_write has]
    split_ifs <;> rfl
  · next other =>
    split
    · exact absurd rfl (other _ _ rfl)
    · rfl

/-- After a request an array has the elements that the request gives it, if it is accepted, and
otherwise those that it had. -/
theorem elements_next (inside : id.index < s.heap.arrays.size) (request : ArrayRequest) :
    (next id s request).heap.elements id =
      if accepted id s request then request.op.update request.operands (s.heap.elements id)
      else s.heap.elements id := by
  unfold next accepted Eval.applyElements
  cases request.op.value (s.heap.elements id) request.operands with
  | ok value => simp [Heap.elements_updateArray inside]
  | error fault => rfl

/-- No request changes the length of an array or anything else of the shape of the heap. -/
theorem keepsShape_next (s : State) (request : ArrayRequest) :
    s.heap.KeepsShape (next id s request).heap := by
  unfold next Eval.applyElements
  cases request.op.value (s.heap.elements id) request.operands with
  | ok value => exact s.heap.keepsShape_updateArray id request.op request.operands
  | error fault => exact .refl _

/-- So no history of requests does. -/
theorem keepsShape_after (s : State) (history : List ArrayRequest) :
    s.heap.KeepsShape (after id s history).heap := by
  induction history generalizing s with
  | nil => exact .refl _
  | cons request rest inductionHypothesis =>
    exact (keepsShape_next s request).trans (inductionHypothesis (next id s request))

/-- One request: an element is what the request wrote, or what it was if the request was refused or
wrote elsewhere. -/
theorem getElem?_next (inside : id.index < s.heap.arrays.size)
    (has : (s.heap.elements id).hasIndex index = true) (request : ArrayRequest) :
    ((next id s request).heap.elements id)[index.toNatClampNeg]? =
      (if accepted id s request then request.written index else none).or
        (s.heap.elements id)[index.toNatClampNeg]? := by
  rw [elements_next inside]
  by_cases accept : accepted id s request = true
  · rw [if_pos accept, if_pos accept, getElem?_update has]
  · rw [if_neg accept, if_neg accept, Option.none_or]

/-- Any history: an element is what was last written to it, or what it was. By induction on the
history, one request at a time. -/
theorem getElem?_after (inside : id.index < s.heap.arrays.size)
    (has : (s.heap.elements id).hasIndex index = true) (history : List ArrayRequest) :
    ((after id s history).heap.elements id)[index.toNatClampNeg]? =
      (lastWritten id index s history).or (s.heap.elements id)[index.toNatClampNeg]? := by
  induction history generalizing s with
  | nil => rfl
  | cons request rest inductionHypothesis =>
    have shape : s.heap.KeepsShape (next id s request).heap := keepsShape_next s request
    have insideNext := Nat.lt_of_lt_of_le inside shape.arrayCount
    have hasNext : ((next id s request).heap.elements id).hasIndex index = true := by
      rw [Elements.hasIndex, shape.lengths id inside]
      exact has
    have later := inductionHypothesis insideNext hasNext
    rw [getElem?_next inside has, ← Option.or_assoc] at later
    exact later

/-- If all elements were equal at first, an element is what was last written to it, or that. -/
theorem getElem?_after_replicate (inside : id.index < s.heap.arrays.size) {count : Nat}
    {init : Int64} (initial : s.heap.elements id = Array.replicate count init)
    (has : (s.heap.elements id).hasIndex index = true) (history : List ArrayRequest) :
    ((after id s history).heap.elements id)[index.toNatClampNeg]? =
      some ((lastWritten id index s history).getD init) := by
  have untouched : (s.heap.elements id)[index.toNatClampNeg]? = some init := by
    rw [initial, Elements.hasIndex, Array.size_replicate, Bool.and_eq_true, decide_eq_true_eq,
      decide_eq_true_eq] at has
    rw [initial, Array.getElem?_replicate, if_pos has.2]
  rw [getElem?_after inside has, untouched, Option.or_some]

end ArrayRequest

/-! ## Answers -/

section Answers

variable (id : ArrayId) (s : State)

/-- The length can be asked for at any time and changes nothing. -/
theorem applyElements_length : Eval.applyElements id .length [] s =
    .done (.int (Int64.ofNat (s.heap.elements id).size)) s := by
  simp only [Eval.applyElements, ArrayOp.value]
  rw [show ArrayOp.length.update [] = fun elements => elements from rfl, Heap.updateArray_self]

/-- Reading an element yields it, or is refused with the index and the length, and changes nothing
in either case. -/
theorem applyElements_get (index : Int64) : Eval.applyElements id .get [index] s =
    if (s.heap.elements id).hasIndex index then
      .done (.int ((s.heap.elements id)[index.toNatClampNeg]?.getD 0)) s
    else .failed (.indexOutOfBounds index (s.heap.elements id).size) s := by
  simp only [Eval.applyElements, ArrayOp.value, Elements.read_eq]
  by_cases has : (s.heap.elements id).hasIndex index = true
  · rw [if_pos has, if_pos has,
      show ArrayOp.get.update [index] = fun elements => elements from rfl]
    simp only [Except.map, Heap.updateArray_self]
  · rw [if_neg has, if_neg has]
    rfl

/-- Writing an element yields null and does what the request does, or is refused with the index and
the length and does nothing. -/
theorem applyElements_set (index value : Int64) : Eval.applyElements id .set [index, value] s =
    if (s.heap.elements id).hasIndex index then
      .done .null (ArrayRequest.next id s ⟨.set, [index, value]⟩)
    else .failed (.indexOutOfBounds index (s.heap.elements id).size) s := by
  simp only [ArrayRequest.next, Eval.applyElements, ArrayOp.value]
  by_cases has : (s.heap.elements id).hasIndex index = true
  · rw [if_pos has, if_pos has]
  · rw [if_neg has, if_neg has]

/-- Operands that are too few or too many are refused, and the refusal says both numbers. This comes
before any look at the operands. -/
theorem applyElements_arity {op : ArrayOp} {operands : List Int64}
    (wrong : operands.length ≠ op.arity) : Eval.applyElements id op operands s =
      .failed (.arityMismatch op.name op.arity operands.length) s := by
  have refused : op.value (s.heap.elements id) operands =
      .error (.arityMismatch op.name op.arity operands.length) := by
    unfold ArrayOp.value
    split
    · exact absurd rfl wrong
    · exact absurd rfl wrong
    · exact absurd rfl wrong
    · rfl
  rw [Eval.applyElements, refused]

/-- A refusal leaves the state as it is. -/
theorem eq_of_applyElements_failed {op : ArrayOp} {operands : List Int64} {fault : Fault}
    {later : State} (failed : Eval.applyElements id op operands s = .failed fault later) :
    later = s := by
  unfold Eval.applyElements at failed
  split at failed
  · cases failed
  · cases failed
    rfl

end Answers

/-! ## Arrays -/

/-- An array is a memory of a fixed number of elements. A negative length is refused. Any other that
can be allocated makes an array, and after any history of requests to it, in which operands may be
wrong in number and indices anywhere, the length is what it was; an element is what the latest `set`
that was accepted wrote to it, and the initial value if there was none; an index is refused just if
it is negative or not below the length; and what is refused changes nothing. -/
theorem arrays_are_memory (length init : Int64) :
    (length < 0 → Elements.make length init =
      .error (.wrongType "array length" "non-negative" (decimal length))) ∧
    (0 ≤ length → length.toNatClampNeg < Elements.lengthLimit →
      ∃ elements, Elements.make length init = .ok elements ∧
        ∀ (s : State) (id : ArrayId) (heap : Heap), s.heap.addArray elements = (id, heap) →
          ∀ history : List ArrayRequest,
            let start := { s with heap }
            let now := ArrayRequest.after id start history
            Eval.applyElements id .length [] now = .done (.int length) now ∧
            (∀ index, Eval.applyElements id .get [index] now =
              if 0 ≤ index ∧ index < length then
                .done (.int ((ArrayRequest.lastWritten id index start history).getD init)) now
              else .failed (.indexOutOfBounds index length.toNatClampNeg) now) ∧
            (∀ index value, Eval.applyElements id .set [index, value] now =
              if 0 ≤ index ∧ index < length then
                .done .null (ArrayRequest.next id now ⟨.set, [index, value]⟩)
              else .failed (.indexOutOfBounds index length.toNatClampNeg) now) ∧
            (∀ op operands, operands.length ≠ op.arity → Eval.applyElements id op operands now =
              .failed (.arityMismatch op.name op.arity operands.length) now) ∧
            ∀ op operands fault later,
              Eval.applyElements id op operands now = .failed fault later → later = now) := by
  constructor
  · intro negative
    rw [Elements.make, if_pos negative]
  · intro nonNegative allocatable
    have made : Elements.make length init = .ok (Array.replicate length.toNatClampNeg init) := by
      rw [Elements.make, if_neg (Int64.not_lt.mpr nonNegative), Elements.filled, if_pos allocatable]
    refine ⟨_, made, ?_⟩
    intro s id heap added history start now
    obtain ⟨inside, initial⟩ : id.index < start.heap.arrays.size ∧ _ :=
      Heap.elements_addArray added
    have sizeStart : (start.heap.elements id).size = length.toNatClampNeg := by
      rw [initial, Array.size_replicate]
    have size : (now.heap.elements id).size = length.toNatClampNeg :=
      ((ArrayRequest.keepsShape_after start history).lengths id inside).trans sizeStart
    have has (index : Int64) : (now.heap.elements id).hasIndex index = true ↔
        0 ≤ index ∧ index < length := Elements.hasIndex_iff nonNegative size
    refine ⟨?_, ?_, ?_, fun _ _ => applyElements_arity _ _,
      fun _ _ _ _ => eq_of_applyElements_failed _ _⟩
    · rw [applyElements_length, size, Int64.ofNat_toNatClampNeg length nonNegative]
    · intro index
      simp only [applyElements_get, size, has]
      by_cases within : 0 ≤ index ∧ index < length
      · have hasStart := (Elements.hasIndex_iff nonNegative sizeStart).mpr within
        have element := ArrayRequest.getElem?_after_replicate inside initial hasStart history
        rw [if_pos within, if_pos within, element, Option.getD_some]
      · rw [if_neg within, if_neg within]
    · intro index value
      simp only [applyElements_set, size, has]

/-- Two elements and a history in which three requests of five are refused. -/
theorem arrays_are_memory_refusals :
    let s := State.initial .default .unlimited
    let start := { s with heap := (s.heap.addArray (Array.replicate 2 7)).2 }
    let history : List ArrayRequest :=
      [⟨.set, [2, 9]⟩, ⟨.set, [0, 5]⟩, ⟨.set, [0]⟩, ⟨.set, [0, 6]⟩, ⟨.set, [-1, 8]⟩]
    let now := ArrayRequest.after ⟨0⟩ start history
    Elements.make (-1) 7 = .error (.wrongType "array length" "non-negative" "-1") ∧
      Elements.make 2 7 = .ok (Array.replicate 2 7) ∧
      Eval.applyElements ⟨0⟩ .get [0] now = .done (.int 6) now ∧
      Eval.applyElements ⟨0⟩ .get [1] now = .done (.int 7) now ∧
      Eval.applyElements ⟨0⟩ .get [2] now = .failed (.indexOutOfBounds 2 2) now ∧
      Eval.applyElements ⟨0⟩ .set [0] now = .failed (.arityMismatch "set" 2 1) now := by
  intro s start history now
  obtain ⟨elements, made, answers⟩ :=
    (arrays_are_memory 2 7).2 (by decide) (by decide)
  have same : Array.replicate 2 7 = elements := Except.ok.inj made
  subst same
  obtain ⟨-, get, -, arity, -⟩ := answers s ⟨0⟩ _ rfl history
  refine ⟨(arrays_are_memory (-1) 7).1 (by decide), made, ?_, ?_, ?_, ?_⟩
  · exact get 0
  · exact get 1
  · exact get 2
  · exact arity .set [0] (by decide)

end SlotLang
