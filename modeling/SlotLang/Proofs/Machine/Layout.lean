import SlotLang.Proofs.Machine.Bound
import SlotLang.Proofs.Names.Suggestion
import SlotLang.Proofs.Table.Placement

/-!
# Layout does not show

Two states may hold the same and still be laid out differently: their tables may have different
numbers of buckets and list their names in different orders, and what is the same array or object
may be another cell in the one heap than in the other. None of this shows in a run, with one
exception. A failed look-up offers a nearest name, and which of several equally near names it offers
depends on the order in which tables list them.

What is shown here for this holds wider. The routines that two states bind to a name need not be the
same, as long as they have the same name and parameters. And where tables are laid out alike on both
sides, the names offered are the same.
-/

namespace SlotLang

/-! ## Faults up to the name they offer -/

/-- Both offer nothing, or both offer a name and the two are equally near to `name`. Which of
several nearest names is offered is left open by this, and nothing else. -/
inductive Names.EquallyNear (name : String) : Option String → Option String → Prop where
  /-- No name is near enough to be offered. -/
  | neither : EquallyNear name none none
  /-- Two names, and equally many edits lead from each to `name`. -/
  | both {found found' : String} (equal : apart name found = apart name found') :
      EquallyNear name (some found) (some found')

/-- Suggestions out of the same names, whatever their order: the order decides between names that
are equally near only. -/
theorem Names.equallyNear_suggest (name : String) {candidates candidates' : List String}
    (same : ∀ other, other ∈ candidates ↔ other ∈ candidates') :
    EquallyNear name (suggest name candidates) (suggest name candidates') := by
  rcases suggest_congr same with ⟨left, right⟩ | ⟨found, found', left, right, equal⟩
  · rw [left, right]
    exact .neither
  · rw [left, right]
    exact .both equal

namespace Fault

/-- The same fault, but for the name that a failed look-up offers. The four faults for a missing
name are the only ones that offer one. -/
inductive SameButHint : Fault → Fault → Prop where
  /-- Faults of all kinds, if they are equal. -/
  | same (fault : Fault) : SameButHint fault fault
  /-- A variable that is bound nowhere in reach. -/
  | missingVariable (name : String) {hint hint' : Option String}
      (near : Names.EquallyNear name hint hint') :
      SameButHint (.undefinedVariable name hint) (.undefinedVariable name hint')
  /-- A slot that an object does not have. -/
  | missingSlot (name : String) {hint hint' : Option String}
      (near : Names.EquallyNear name hint hint') :
      SameButHint (.undefinedSlot name hint) (.undefinedSlot name hint')
  /-- A function that is not declared. -/
  | missingFunction (name : String) {hint hint' : Option String}
      (near : Names.EquallyNear name hint hint') :
      SameButHint (.undefinedFunction name hint) (.undefinedFunction name hint')
  /-- A method that an object does not have. -/
  | missingMethod (name : String) {hint hint' : Option String}
      (near : Names.EquallyNear name hint hint') :
      SameButHint (.undefinedMethod name hint) (.undefinedMethod name hint')

/-- The name that a failed look-up asked for. Other faults ask for none. -/
def missing? : Fault → Option String
  | undefinedVariable name _ | undefinedSlot name _ | undefinedFunction name _
  | undefinedMethod name _ => some name
  | _ => none

/-- Two faults of one kind that say the same, except that both may end in a hint, and then the two
names offered are equally near to the name that is missing. -/
def SaysTheSame (fault fault' : Fault) : Prop :=
  fault.kind = fault'.kind ∧
    (fault.message = fault'.message ∨
      ∃ words name found found',
        fault.missing? = some name ∧ fault'.missing? = some name ∧
        Names.apart name found = Names.apart name found' ∧
        fault.message = words ++ Names.hint (some found) ∧
        fault'.message = words ++ Names.hint (some found'))

/-- What the relation means for the texts of two faults, which is all that is ever seen of them. The
hint ends the text, so the words before it are the same. -/
theorem SameButHint.saysTheSame {fault fault' : Fault} (same : SameButHint fault fault') :
    fault.SaysTheSame fault' := by
  cases same with
  | same => exact ⟨rfl, .inl rfl⟩
  | missingVariable name near | missingSlot name near | missingFunction name near
  | missingMethod name near =>
    refine ⟨rfl, ?_⟩
    cases near with
    | neither => exact .inl rfl
    | both equal => exact .inr ⟨_, name, _, _, rfl, rfl, equal, rfl, rfl⟩

end Fault

/-! ## Cells up to layout -/

/-- Which cells of two growing heaps are the same. Of the cells that are there at first, some are
matched one to one. Cells that are made later are matched in the order in which they are made. -/
structure Matching where
  /-- How many cells the left heap has at first. -/
  left : Nat
  /-- How many cells the right heap has at first. -/
  right : Nat
  /-- Which of the cells at first are the same. -/
  atFirst : Nat → Nat → Prop
  /-- Only cells that are there at first are matched. -/
  inside : ∀ {i j}, atFirst i j → i < left ∧ j < right
  /-- No cell is matched with two others. -/
  oneToOne : ∀ {i j k l}, atFirst i j → atFirst k l → (i = k ↔ j = l)

namespace Matching

variable (m : Matching)

/-- The same cell. Cells that are made later are the same if equally many were made before them on
their sides. -/
inductive Cells : Nat → Nat → Prop where
  /-- Two cells that are matched from the start. -/
  | old {i j : Nat} (matched : m.atFirst i j) : Cells i j
  /-- The cells that are made after equally many others. -/
  | new (made : Nat) : Cells (m.left + made) (m.right + made)

/-- Both heaps have got the same number of cells since. This is what makes the next cells on both
sides the same ones. -/
def Grown (size size' : Nat) : Prop :=
  ∃ made, size = m.left + made ∧ size' = m.right + made

/-- None of the cells at first are matched, and only the left heap has any. A run in a heap that
holds something is compared in this way with a run that starts with an empty heap. -/
def inOrder (left : Nat) : Matching where
  left := left
  right := 0
  atFirst := fun _ _ => False
  inside := False.elim
  oneToOne := False.elim

variable {m} {i j k l size size' : Nat}

/-- The cells that are made next are the same: the same number was made before them on both
sides. -/
theorem Grown.next (grown : m.Grown size size') : m.Cells size size' := by
  obtain ⟨made, rfl, rfl⟩ := grown
  exact .new made

/-- Making a cell on both sides keeps the count of cells made since the same, so the cells after it
are again made in step. -/
theorem Grown.push (grown : m.Grown size size') : m.Grown (size + 1) (size' + 1) := by
  obtain ⟨made, rfl, rfl⟩ := grown
  exact ⟨made + 1, rfl, rfl⟩

/-- No other cells are the same as those that are made next. Matched ones are there at first, and of
those made later each has its number. -/
theorem Cells.next_iff (same : m.Cells i j) (grown : m.Grown size size') :
    i = size ↔ j = size' := by
  obtain ⟨made, rfl, rfl⟩ := grown
  cases same with
  | old matched =>
    have inside := m.inside matched
    omega
  | new made => omega

/-- A cell is the same as one cell only, on either side. Comparing two identities therefore gives
the same answer in both heaps. -/
theorem Cells.eq_iff (same : m.Cells i j) (others : m.Cells k l) : i = k ↔ j = l := by
  cases same with
  | old matched =>
    cases others with
    | old othersMatched => exact m.oneToOne matched othersMatched
    | new made => exact (Cells.old matched).next_iff ⟨made, rfl, rfl⟩
  | new made => rw [eq_comm, others.next_iff ⟨made, rfl, rfl⟩, eq_comm]

/-- If only the left heap has cells at first, a cell of the right one is found on the left behind
those. -/
theorem cells_inOrder_iff {left : Nat} : (inOrder left).Cells i j ↔ i = j + left := by
  constructor
  · rintro (⟨⟨⟩⟩ | made)
    simp only [inOrder]
    omega
  · rintro rfl
    rw [Nat.add_comm j]
    simpa [inOrder] using Cells.new (m := inOrder left) j

/-- In that case the sizes differ by the cells that the left heap had at first, from then on. -/
theorem grown_inOrder_iff {left : Nat} : (inOrder left).Grown size size' ↔ size = size' + left := by
  constructor
  · rintro ⟨made, rfl, rfl⟩
    simp only [inOrder]
    omega
  · rintro rfl
    exact ⟨size', Nat.add_comm size' left, (Nat.zero_add size').symm⟩

end Matching

/-! ## States up to layout -/

/-- How the heap, the sink and the routines of one run are displaced against those of another. Each
use of the relation on states chooses these for itself. -/
structure Displacement where
  /-- Which arrays are the same. -/
  arrays : Matching
  /-- Which objects are the same. -/
  objects : Matching
  /-- How the sinks are related. -/
  sinks : Sink → Sink → Prop
  /-- How routines that are bound to one name are related. -/
  routines : Routine → Routine → Prop
  /-- Whether tables are laid out alike. -/
  exact : Prop
  /-- Related routines are declared and called alike. -/
  signature : ∀ {routine routine'}, routines routine routine' →
    routine.name = routine'.name ∧ routine.params = routine'.params

namespace Displacement

/-- Sinks take and refuse the same texts, now and after any of them. That is all a run sees of a
sink. -/
def Aligned (d : Displacement) : Prop :=
  ∀ sink sink' text, d.sinks sink sink' →
    (sink.write text).1 = (sink'.write text).1 ∧ d.sinks (sink.write text).2 (sink'.write text).2

variable (d : Displacement)

/-- The same array, by the identities in the two heaps. -/
def Arrays (i j : ArrayId) : Prop :=
  d.arrays.Cells i.index j.index

/-- The same object, by the identities in the two heaps. -/
def Objects (i j : ObjectId) : Prop :=
  d.objects.Cells i.index j.index

/-- The same binding: of the same value, or of related routines. A name is never bound to a value on
one side and to a routine on the other. -/
inductive Bindings : Binding → Binding → Prop where
  /-- Values that correspond. -/
  | var {v v' : Value} (same : v.Corresponds d.Arrays d.Objects v') : Bindings (.var v) (.var v')
  /-- Routines that are related. -/
  | routine {routine routine' : Routine} (same : d.routines routine routine') :
      Bindings (.routine routine) (.routine routine')

/-- Scopes that bind the same names to the same. How they are laid out matters only if that is
demanded to agree. -/
structure Scopes (t t' : Scope) : Prop where
  /-- A name is bound on both sides or on neither, and bound to the same. -/
  bound : ∀ name, Option.Rel d.Bindings (t.get? name) (t'.get? name)
  /-- Where it matters, names stand at the same places. -/
  layout : d.exact → t.SameLayout t'

/-- The same fault, but for the name that a failed look-up offers if tables are laid out
differently. -/
structure Faults (fault fault' : Fault) : Prop where
  /-- At most the names offered differ. -/
  sameButHint : fault.SameButHint fault'
  /-- If tables are laid out alike, they do not. -/
  same : d.exact → fault = fault'

/-- States that hold the same, apart from cells that are not matched. Nothing is said of those: a
run that does not reach them never looks at them. -/
structure States (s s' : State) : Prop where
  /-- The same globals. -/
  globals : d.Scopes s.globals s'.globals
  /-- Both states are in a call, or neither is. -/
  locals : Option.Rel d.Scopes s.locals s'.locals
  /-- Equally many arrays were made since. -/
  arrayCount : d.arrays.Grown s.heap.arrays.size s'.heap.arrays.size
  /-- The same arrays have the same elements, or both have no cell. -/
  arrays : ∀ {i j}, d.Arrays i j → s.heap.arrays[i.index]? = s'.heap.arrays[j.index]?
  /-- Equally many objects were made since. -/
  objectCount : d.objects.Grown s.heap.objects.size s'.heap.objects.size
  /-- The same objects have the same slots, or both have no cell. -/
  objects : ∀ {i j}, d.Objects i j →
    Option.Rel d.Scopes s.heap.objects[i.index]? s'.heap.objects[j.index]?
  /-- The sinks are related as the displacement says. -/
  sink : d.sinks s.sink s'.sink
  /-- Equally many calls are open. -/
  depth : s.depth = s'.depth

/-- Runs that hold the same up to layout. What evaluation does to the two sides follows from the
laws of a correspondence, each of which is shown below. -/
def correspondence : Correspondence where
  arrays := d.Arrays
  objects := d.Objects
  routines := d.routines
  scopes := d.Scopes
  faults := d.Faults
  states := d.States

variable {d} {t t' : Scope} {s s' : State}

/-! ### Scopes -/

/-- A fault is the same as itself, whatever is demanded of the layout. -/
theorem Faults.refl (fault : Fault) : d.Faults fault fault :=
  ⟨.same fault, fun _ => rfl⟩

/-- Empty tables bind the same, which is nothing. They are laid out alike only with the same number
of buckets, so this is asked for if layouts have to agree. -/
theorem scopes_empty {capacity capacity' : Nat} (same : d.exact → capacity = capacity') :
    d.Scopes (Table.empty capacity) (Table.empty capacity') where
  bound := by
    intro name
    rw [Table.get?_empty, Table.get?_empty]
    exact .none
  layout := fun exact => congrArg (fun capacity =>
    (Buckets.empty (β := Binding) capacity).map fun _ => ()) (same exact)

/-- Binding a name on both sides keeps tables the same, and tables that are laid out alike stay so:
where the name is put depends on names only. -/
theorem Scopes.insert (same : d.Scopes t t') (name : String) {binding binding' : Binding}
    (bindings : d.Bindings binding binding') :
    d.Scopes (t.insert name binding) (t'.insert name binding') where
  bound := by
    intro tested
    rw [Table.get?_insert, Table.get?_insert]
    split
    · exact .some bindings
    · exact same.bound tested
  layout := fun exact => (same.layout exact).insert name binding binding'

/-- The same names are bound, whatever they are bound to. This is all that assigning a variable has
to know of the scopes. -/
theorem Scopes.isSome_get? (same : d.Scopes t t') (name : String) :
    (t.get? name).isSome = (t'.get? name).isSome := by
  have bound := same.bound name
  generalize t.get? name = found, t'.get? name = found' at bound ⊢
  cases bound <;> rfl

/-- So the same names are listed, in whatever order. This is what look-ups that fail need: they take
the nearest of the names listed. -/
theorem Scopes.mem_names (same : d.Scopes t t') (name : String) :
    name ∈ t.names ↔ name ∈ t'.names := by
  rw [Table.mem_names, Table.mem_names, same.isSome_get?]

/-- Scopes that are laid out alike list their names alike. Otherwise only the names listed are the
same. -/
theorem Scopes.names_eq (same : d.Scopes t t') (exact : d.exact) : t.names = t'.names :=
  (same.layout exact).names_eq

/-- The same objects have the same slots. An identity without a cell has no slots on either side. -/
theorem States.slots (same : d.States s s') {i j : ObjectId} (object : d.Objects i j) :
    d.Scopes (s.heap.slots i) (s'.heap.slots j) := by
  have cells := same.objects object
  unfold Heap.slots
  generalize s.heap.objects[i.index]? = cell, s'.heap.objects[j.index]? = cell' at cells ⊢
  cases cells with
  | none => exact scopes_empty fun _ => rfl
  | some same => exact same

/-! ### Look-ups -/

/-- Reading a slot of the same object gives the same value or the same fault. A fault for a missing
slot offers an equally near name, since it is taken out of the same names. -/
theorem answers_readSlot (same : d.States s s') {i j : ObjectId} (object : d.Objects i j)
    (name : String) :
    d.correspondence.Answers d.correspondence.Values (s.heap.readSlot i name)
      (s'.heap.readSlot j name) := by
  have slots := same.slots object
  have bound := slots.bound name
  unfold Heap.readSlot
  generalize (s.heap.slots i).get? name = found, (s'.heap.slots j).get? name = found' at bound ⊢
  cases bound with
  | none =>
    exact .error ⟨.missingSlot name (Names.equallyNear_suggest name slots.mem_names),
      fun exact => by rw [slots.names_eq exact]⟩
  | some same =>
    cases same with
    | var same => exact .ok same
    | routine same => exact .error (.refl _)

/-- Finding a method of the same object gives related routines, or faults as for a slot; a variable
of that name is refused on both sides. -/
theorem answers_method (same : d.States s s') {i j : ObjectId} (object : d.Objects i j)
    (name : String) :
    d.correspondence.Answers d.routines (s.heap.method i name) (s'.heap.method j name) := by
  have slots := same.slots object
  have bound := slots.bound name
  unfold Heap.method
  generalize (s.heap.slots i).get? name = found, (s'.heap.slots j).get? name = found' at bound ⊢
  cases bound with
  | none =>
    exact .error ⟨.missingMethod name (Names.equallyNear_suggest name slots.mem_names),
      fun exact => by rw [slots.names_eq exact]⟩
  | some same =>
    cases same with
    | var same => exact .error (.refl _)
    | routine same => exact .ok same

/-- Finding a function by its name gives related routines. The names offered for a missing one are
the global ones. -/
theorem answers_function (same : d.States s s') (name : String) :
    d.correspondence.Answers d.routines (s.function name) (s'.function name) := by
  have bound := same.globals.bound name
  unfold State.function
  generalize s.globals.get? name = found, s'.globals.get? name = found' at bound ⊢
  cases bound with
  | none =>
    exact .error ⟨.missingFunction name (Names.equallyNear_suggest name same.globals.mem_names),
      fun exact => by rw [same.globals.names_eq exact]⟩
  | some same =>
    cases same with
    | var same => exact .error (.refl _)
    | routine same => exact .ok same

/-- The names a variable may have are the same names: those of the local scope, where there is one,
and the global ones. -/
theorem States.mem_visibleNames (same : d.States s s') (name : String) :
    name ∈ s.visibleNames ↔ name ∈ s'.visibleNames := by
  have locals := same.locals
  unfold State.visibleNames
  rw [List.mem_append, List.mem_append, same.globals.mem_names]
  generalize s.locals = scope, s'.locals = scope' at locals ⊢
  cases locals with
  | none => rfl
  | some same =>
    simp only [Option.map_some, Option.getD_some]
    rw [same.mem_names]

/-- If tables are laid out alike then all names in reach are listed in one order, the local ones
first. -/
theorem States.visibleNames_eq (same : d.States s s') (exact : d.exact) :
    s.visibleNames = s'.visibleNames := by
  have locals := same.locals
  unfold State.visibleNames
  rw [same.globals.names_eq exact]
  generalize s.locals = scope, s'.locals = scope' at locals ⊢
  cases locals with
  | none => rfl
  | some scopes => rw [Option.map_some, Option.map_some, scopes.names_eq exact]

/-- A variable that is not found is a fault on both sides, with equally near names offered, and with
the same one if tables are laid out alike. -/
theorem States.missingVariable (same : d.States s s') (name : String) :
    d.Faults (.undefinedVariable name (Names.suggest name s.visibleNames))
      (.undefinedVariable name (Names.suggest name s'.visibleNames)) where
  sameButHint := .missingVariable name (Names.equallyNear_suggest name same.mem_visibleNames)
  same := fun exact => by rw [same.visibleNames_eq exact]

/-- A name is bound to the same in both states, in the local scope if there is one and it has the
name, else in the global one. -/
theorem States.lookup (same : d.States s s') (name : String) :
    Option.Rel d.Bindings (s.lookup name) (s'.lookup name) := by
  have locals := same.locals
  have globals := same.globals.bound name
  unfold State.lookup
  generalize s.locals = scope, s'.locals = scope' at locals ⊢
  cases locals with
  | none => exact globals
  | @some t t' same =>
    have bound := same.bound name
    simp only [Option.bind_some]
    generalize t.get? name = found, t'.get? name = found' at bound ⊢
    cases bound with
    | none => exact globals
    | some same => exact .some same

/-- Reading a variable gives the same value or the same fault; the names offered are those in
reach. -/
theorem answers_readVariable (same : d.States s s') (name : String) :
    d.correspondence.Answers d.correspondence.Values (s.readVariable name)
      (s'.readVariable name) := by
  have bound := same.lookup name
  unfold State.readVariable
  generalize s.lookup name = found, s'.lookup name = found' at bound ⊢
  cases bound with
  | none => exact .error (same.missingVariable name)
  | some same =>
    cases same with
    | var same => exact .ok same
    | routine same => exact .error (.refl _)

/-! ### Changes of scopes -/

/-- Binding a global name touches one table on either side. Heaps, sinks and local scopes stay as
they are. -/
theorem States.bindGlobal (same : d.States s s') (name : String) {binding binding' : Binding}
    (bindings : d.Bindings binding binding') :
    d.States (s.bindGlobal name binding) (s'.bindGlobal name binding') :=
  { same with globals := same.globals.insert name bindings }

/-- A variable is declared in the local scope if there is one, else in the global one, and both
states choose alike. -/
theorem States.declare (same : d.States s s') (name : String) {v v' : Value}
    (values : v.Corresponds d.Arrays d.Objects v') :
    d.States (s.declare name v) (s'.declare name v') := by
  have locals := same.locals
  unfold State.declare
  generalize s.locals = scope, s'.locals = scope' at locals ⊢
  cases locals with
  | none => exact same.bindGlobal name (.var values)
  | some scopes => exact { same with locals := .some (scopes.insert name (.var values)) }

/-- An assignment binds in the scope that has the name. The scopes have the same names, so both
states choose the same one, or both refuse. -/
theorem answers_assign (same : d.States s s') (name : String) {v v' : Value}
    (values : v.Corresponds d.Arrays d.Objects v') :
    d.correspondence.Answers d.States (s.assign name v) (s'.assign name v') := by
  have locals := same.locals
  have elsewhere : d.correspondence.Answers d.States
      (if s.globals.contains name then .ok (s.bindGlobal name (.var v))
        else .error (.undefinedVariable name (Names.suggest name s.visibleNames)))
      (if s'.globals.contains name then .ok (s'.bindGlobal name (.var v'))
        else .error (.undefinedVariable name (Names.suggest name s'.visibleNames))) := by
    rw [Table.contains, Table.contains, same.globals.isSome_get?]
    split
    · exact .ok (same.bindGlobal name (.var values))
    · exact .error (same.missingVariable name)
  unfold State.assign
  generalize s.locals = scope, s'.locals = scope' at locals ⊢
  cases locals with
  | none => exact elsewhere
  | @some t t' scopes =>
    simp only [Option.filter_some, Table.contains, scopes.isSome_get?]
    by_cases bound : (t'.get? name).isSome
    · simp only [bound, if_true]
      exact .ok { same with locals := .some (scopes.insert name (.var values)) }
    · simp only [bound]
      exact elsewhere

/-! ### Changes of the heap -/

/-- A new array is the same on both sides: it is in the cells that are made next, and no other array
is the same as one of these. -/
theorem States.addArray (same : d.States s s') (elements : Elements) :
    d.Arrays ⟨s.heap.arrays.size⟩ ⟨s'.heap.arrays.size⟩ ∧
      d.States { s with heap := (s.heap.addArray elements).2 }
        { s' with heap := (s'.heap.addArray elements).2 } := by
  have count := same.arrayCount
  refine ⟨count.next, { same with arrayCount := ?_, arrays := ?_ }⟩
  · simpa only [Heap.addArray, Array.size_push] using count.push
  · intro i j array
    have sameCell := same.arrays array
    have sameEnd := array.next_iff count
    simp only [Heap.addArray, Array.getElem?_push, sameEnd, sameCell]

/-- A change to the same array is a change to no other pair of arrays, because arrays are matched
one to one. -/
theorem States.updateArray (same : d.States s s') {i j : ArrayId} (array : d.Arrays i j)
    (change : Elements → Elements) :
    d.States { s with heap := s.heap.updateArray i change }
      { s' with heap := s'.heap.updateArray j change } := by
  refine { same with arrayCount := ?_, arrays := ?_ }
  · simpa [Heap.updateArray] using same.arrayCount
  · intro k l tested
    have sameCell := same.arrays tested
    have sameIndex := array.eq_iff tested
    simp only [Heap.updateArray, Array.getElem?_modify, sameIndex, sameCell]

/-- The same arrays have the same elements. Elements are integers, so there is nothing in them to be
displaced. -/
theorem States.elements (same : d.States s s') {i j : ArrayId} (array : d.Arrays i j) :
    s.heap.elements i = s'.heap.elements j := by
  rw [Heap.elements, Heap.elements, same.arrays array]

/-- A new object is the same on both sides if it has the same slots, as a new array is if it has the
same elements. -/
theorem States.addObject (same : d.States s s') (scopes : d.Scopes t t') :
    d.Objects ⟨s.heap.objects.size⟩ ⟨s'.heap.objects.size⟩ ∧
      d.States { s with heap := (s.heap.addObject t).2 }
        { s' with heap := (s'.heap.addObject t').2 } := by
  have count := same.objectCount
  refine ⟨count.next, { same with objectCount := ?_, objects := ?_ }⟩
  · simpa only [Heap.addObject, Array.size_push] using count.push
  · intro i j object
    have sameEnd := object.next_iff count
    simp only [Heap.addObject, Array.getElem?_push, sameEnd]
    split
    · exact .some scopes
    · exact same.objects object

/-- Binding a slot of the same object changes the slots of no other pair, as with arrays. -/
theorem States.putSlot (same : d.States s s') {i j : ObjectId} (object : d.Objects i j)
    (name : String) {binding binding' : Binding} (bindings : d.Bindings binding binding') :
    d.States { s with heap := s.heap.putSlot i name binding }
      { s' with heap := s'.heap.putSlot j name binding' } := by
  refine { same with objectCount := ?_, objects := ?_ }
  · simpa [Heap.putSlot] using same.objectCount
  · intro k l tested
    have cells := same.objects tested
    have sameIndex := object.eq_iff tested
    simp only [Heap.putSlot, Array.getElem?_modify, sameIndex]
    generalize s.heap.objects[k.index]? = cell, s'.heap.objects[l.index]? = cell' at cells ⊢
    split
    · cases cells with
      | none => exact .none
      | some scopes => exact .some (scopes.insert name bindings)
    · exact cells

/-- An operator on the same array gives the same value or the same fault, and leaves the same
elements. -/
theorem follows_applyElements {i j : ArrayId} (array : d.Arrays i j) (op : ArrayOp)
    (operands : List Int64) :
    d.correspondence.Follows d.correspondence.Values (Eval.applyElements i op operands)
      (Eval.applyElements j op operands) := by
  intro s s' same
  unfold Eval.applyElements
  rw [States.elements same array]
  cases answered : op.value (s'.heap.elements j) operands with
  | ok value =>
    exact .done (ArrayOp.corresponds_of_value answered) (States.updateArray same array _)
  | error fault => exact .failed (.refl fault) same

/-! ### Printing and calling -/

/-- Printing needs the sinks to take and refuse alike; nothing else of a state matters to it. -/
theorem follows_print (aligned : d.Aligned) (text : String) :
    d.correspondence.Follows Eq (Eval.print text) (Eval.print text) := by
  intro s s' same
  obtain ⟨sameFault, sameSink⟩ := aligned s.sink s'.sink text same.sink
  unfold Eval.print
  generalize s.sink.write text = written, s'.sink.write text = written' at sameFault sameSink ⊢
  obtain ⟨refused, sink⟩ := written
  obtain ⟨refused', sink'⟩ := written'
  cases sameFault
  cases refused with
  | none => exact .done rfl { same with sink := sameSink }
  | some fault => exact .failed (.refl fault) { same with sink := sameSink }

/-- A call counts its depth alike on both sides and is refused alike. After it, the scope of the
caller is back, and that of the callee is gone. -/
theorem follows_enter {σ σ' : Settings} (sameLimit : σ.maxCallDepth = σ'.maxCallDepth)
    (scopes : d.Scopes t t') {body body' : Action Value}
    (bodies : d.correspondence.Follows d.correspondence.Values body body') :
    d.correspondence.Follows d.correspondence.Values (Eval.enter σ t body)
      (Eval.enter σ' t' body') := by
  apply Correspondence.follows_call sameLimit bodies .refl States.depth
  case entered =>
    intro s s' same
    exact { same with locals := .some scopes, depth := congrArg (· + 1) same.depth }
  case left =>
    intro s s' u u' same after
    exact { after with locals := same.locals, depth := congrArg (· - 1) after.depth }

/-- Every operation keeps what two states hold the same, if the two sides have the same limit on
nested calls. The numbers of buckets that new tables start with may differ, unless tables are to be
laid out alike. -/
theorem respected {σ σ' : Settings} (sameLimit : σ.maxCallDepth = σ'.maxCallDepth)
    (sameCapacities : d.exact →
      σ.localCapacity = σ'.localCapacity ∧ σ.objectCapacity = σ'.objectCapacity)
    (aligned : d.Aligned) : d.correspondence.Respected σ σ' where
  sameName := fun same => (d.signature same).1
  sameParams := fun same => (d.signature same).2
  fault := .refl
  print := follows_print aligned
  addArray := fun elements same => States.addArray same elements
  applyElements := fun op operands array => follows_applyElements array op operands
  freshLocals := scopes_empty fun exact => (sameCapacities exact).1
  freshObject := scopes_empty fun exact => (sameCapacities exact).2
  bindValue := fun name scopes values => Scopes.insert scopes name (.var values)
  bindRoutine := fun name scopes same => Scopes.insert scopes name (.routine same)
  slots := fun object same => States.slots same object
  addObject := fun scopes same => States.addObject same scopes
  readSlot := fun name object same => answers_readSlot same object name
  putSlot := fun name object values same => States.putSlot same object name (.var values)
  method := fun name object same => answers_method same object name
  function := fun name same => answers_function same name
  readVariable := fun name same => answers_readVariable same name
  assign := fun name values same => answers_assign same name values
  declare := fun name values same => States.declare same name values
  bindGlobal := fun name routines same => States.bindGlobal same name (.routine routines)
  enter := fun scopes bodies => follows_enter sameLimit scopes bodies

end Displacement

/-! ## Tables do not show -/

/-- Tables that bind the same names to the same, in whatever buckets and order. This is what is left
of a table when its layout is disregarded. -/
def Table.SameBindings {hash : String → Nat} {β : Type} (t t' : Table hash β) : Prop :=
  ∀ name, t.get? name = t'.get? name

/-- States that are equal but for how their tables are laid out. The heaps have the same cells, so
identities mean the same in both. -/
structure State.SameBindings (s s' : State) : Prop where
  /-- The same globals. -/
  globals : s.globals.SameBindings s'.globals
  /-- The same local variables, and a local scope on both sides or on neither. -/
  locals : Option.Rel Table.SameBindings s.locals s'.locals
  /-- The very same arrays. -/
  arrays : s.heap.arrays = s'.heap.arrays
  /-- Equally many objects. -/
  objectCount : s.heap.objects.size = s'.heap.objects.size
  /-- The same slots in every object. -/
  objects : ∀ id, (s.heap.slots id).SameBindings (s'.heap.slots id)
  /-- The same sink. -/
  sink : s.sink = s'.sink
  /-- Equally many calls are open. -/
  depth : s.depth = s'.depth

/-- States that bind the same do so either way round. -/
theorem State.SameBindings.symm {s s' : State} (same : s.SameBindings s') : s'.SameBindings s where
  globals := fun name => (same.globals name).symm
  locals := by
    have locals := same.locals
    generalize s.locals = scope, s'.locals = scope' at locals ⊢
    cases locals with
    | none => exact .none
    | some scopes => exact .some fun name => (scopes name).symm
  arrays := same.arrays.symm
  objectCount := same.objectCount.symm
  objects := fun id name => (same.objects id name).symm
  sink := same.sink.symm
  depth := same.depth.symm

namespace Displacement

/-- No displacement: the heaps are aligned, and the sinks and the routines equal. Only the layout of
tables may differ. -/
def none : Displacement where
  arrays := .inOrder 0
  objects := .inOrder 0
  sinks := Eq
  routines := Eq
  exact := False
  signature := by
    rintro routine _ rfl
    exact ⟨rfl, rfl⟩

/-- The same sink takes and refuses the same, and so do the two that a write leaves, which are the
same again. -/
theorem none_aligned : none.Aligned := by
  rintro sink _ text rfl
  exact ⟨rfl, rfl⟩

/-- With no displacement, the same value means an equal one: cells are matched with themselves. -/
theorem corresponds_none_iff {v v' : Value} :
    v.Corresponds none.Arrays none.Objects v' ↔ v = v' := by
  constructor
  · intro same
    cases same with
    | int n => rfl
    | null => rfl
    | array same =>
      exact congrArg (fun index => Value.array ⟨index⟩) (Matching.cells_inOrder_iff.mp same)
    | object same =>
      exact congrArg (fun index => Value.object ⟨index⟩) (Matching.cells_inOrder_iff.mp same)
  · rintro rfl
    cases v with
    | int n => exact .int n
    | null => exact .null
    | array id => exact .array (Matching.cells_inOrder_iff.mpr rfl)
    | object id => exact .object (Matching.cells_inOrder_iff.mpr rfl)

/-- With no displacement, bindings that are the same are equal, of values as well as of routines. -/
theorem bindings_none_iff {binding binding' : Binding} :
    none.Bindings binding binding' ↔ binding = binding' := by
  constructor
  · intro same
    cases same with
    | var same => rw [corresponds_none_iff.mp same]
    | routine same => exact congrArg Binding.routine same
  · rintro rfl
    cases binding with
    | var value => exact .var (corresponds_none_iff.mpr rfl)
    | routine routine => exact .routine rfl

/-- With no displacement, scopes are the same just if they bind the same names to equal things.
Their layout stays open. -/
theorem scopes_none_iff {t t' : Scope} : none.Scopes t t' ↔ t.SameBindings t' := by
  have same (found found' : Option Binding) :
      Option.Rel none.Bindings found found' ↔ found = found' := by
    constructor
    · intro related
      cases related with
      | none => rfl
      | some related => rw [bindings_none_iff.mp related]
    · rintro rfl
      cases found with
      | none => exact .none
      | some binding => exact .some (bindings_none_iff.mpr rfl)
  constructor
  · exact fun scopes name => (same _ _).mp (scopes.bound name)
  · exact fun scopes => ⟨fun name => (same _ _).mpr (scopes name), False.elim⟩

/-- Relations that agree everywhere agree on values that may be absent. -/
theorem option_rel_congr {α : Type} {r r' : α → α → Prop} (same : ∀ x y, r x y ↔ r' x y)
    {x y : Option α} : Option.Rel r x y ↔ Option.Rel r' x y := by
  cases x with
  | none => cases y <;> simp
  | some x =>
    cases y with
    | none => simp
    | some y => simpa using same x y

/-- With no displacement, states are the same just if they bind the same and are equal in all else.
This turns the general result into one about states with equal bindings. -/
theorem states_none_iff {s s' : State} : none.States s s' ↔ s.SameBindings s' := by
  constructor
  · intro same
    have sameArrays : s.heap.arrays = s'.heap.arrays := by
      apply Array.ext_getElem?
      intro index
      exact same.arrays (i := ⟨index⟩) (j := ⟨index⟩) (Matching.cells_inOrder_iff.mpr rfl)
    exact
      { globals := scopes_none_iff.mp same.globals
        locals := (option_rel_congr fun _ _ => scopes_none_iff).mp same.locals
        arrays := sameArrays
        objectCount := Matching.grown_inOrder_iff.mp same.objectCount
        objects := fun id =>
          scopes_none_iff.mp (same.slots (Matching.cells_inOrder_iff.mpr rfl))
        sink := same.sink
        depth := same.depth }
  · intro same
    refine
      { globals := scopes_none_iff.mpr same.globals
        locals := (option_rel_congr fun _ _ => scopes_none_iff).mpr same.locals
        arrayCount := Matching.grown_inOrder_iff.mpr (congrArg Array.size same.arrays)
        arrays := ?_
        objectCount := Matching.grown_inOrder_iff.mpr same.objectCount
        objects := ?_
        sink := same.sink
        depth := same.depth }
    · rintro ⟨index⟩ ⟨index'⟩ matched
      obtain rfl : index = index' := Matching.cells_inOrder_iff.mp matched
      rw [same.arrays]
    · rintro ⟨index⟩ ⟨index'⟩ matched
      obtain rfl : index = index' := Matching.cells_inOrder_iff.mp matched
      have slots := scopes_none_iff.mpr (same.objects ⟨index⟩)
      have count := same.objectCount
      unfold Heap.slots at slots
      by_cases inside : index < s.heap.objects.size
      · have inside' : index < s'.heap.objects.size := count ▸ inside
        simpa [inside, inside'] using slots
      · have outside' : ¬index < s'.heap.objects.size := count ▸ inside
        simp [inside, outside']

end Displacement

/-- Settings that differ at most in the numbers of buckets that new tables start with. Growth then
takes the tables through other numbers as well. -/
def Settings.SameButCapacities (σ σ' : Settings) : Prop :=
  { σ with
    globalCapacity := σ'.globalCapacity
    localCapacity := σ'.localCapacity
    objectCapacity := σ'.objectCapacity } = σ'

/-- The layout of tables does not show. From states that are equal but for the layout of their
tables, and under settings that are equal but for initial numbers of buckets, code diverges on both
sides, or ends on both sides with the same value or with faults that say the same, in states that
are again equal but for the layout of their tables. -/
theorem eval_layout_unobservable {σ σ' : Settings} (settings : σ.SameButCapacities σ')
    {s s' : State} (same : s.SameBindings s') (code : Code) :
    (Diverges σ code s ∧ Diverges σ' code s') ∨
    (∃ value later later', Ends σ code s (.done value later) ∧
      Ends σ' code s' (.done value later') ∧ later.SameBindings later') ∨
    (∃ fault fault' later later', Ends σ code s (.failed fault later) ∧
      Ends σ' code s' (.failed fault' later') ∧ fault.SaysTheSame fault' ∧
      later.SameBindings later') := by
  have sameLimit : σ.maxCallDepth = σ'.maxCallDepth := by
    rw [← settings]
  have follows (bound : Nat) := Correspondence.follows_eval
    (Displacement.respected sameLimit False.elim Displacement.none_aligned) .rfl
    (Nat.le_refl bound) code s s' (Displacement.states_none_iff.mpr same)
  have back (bound : Nat) := Correspondence.follows_eval
    (Displacement.respected sameLimit.symm False.elim Displacement.none_aligned) .rfl
    (Nat.le_refl bound) code s' s (Displacement.states_none_iff.mpr same.symm)
  rcases Correspondence.both_diverge_or_both_end follows back with
    diverge | ⟨outcome, outcome', ends, ends', matched⟩
  · exact .inl diverge
  · cases matched with
    | done values later =>
      cases Displacement.corresponds_none_iff.mp values
      exact .inr (.inl ⟨_, _, _, ends, ends', Displacement.states_none_iff.mp later⟩)
    | failed faults later =>
      exact .inr (.inr ⟨_, _, _, _, ends, ends', faults.sameButHint.saysTheSame,
        Displacement.states_none_iff.mp later⟩)
    | interrupted => exact absurd rfl ends.1

/-- Global scopes that bind the same two names, in tables of different size and in either order. The
name `nab` is equally near to both. -/
theorem eval_layout_unobservable_two_orders :
    let σ := Settings.default
    let σ' := { Settings.default with globalCapacity := 1, localCapacity := 0 }
    let zero := Binding.var (.int 0)
    let s := { State.initial σ .unlimited with
      globals := ((Table.empty 64).insert "tab" zero).insert "nib" zero }
    let s' := { State.initial σ' .unlimited with
      globals := ((Table.empty 1).insert "nib" zero).insert "tab" zero }
    let code := Code.expr (.ref "nab")
    σ.SameButCapacities σ' ∧ s.SameBindings s' ∧
      ((Diverges σ code s ∧ Diverges σ' code s') ∨
      (∃ value later later', Ends σ code s (.done value later) ∧
        Ends σ' code s' (.done value later') ∧ later.SameBindings later') ∨
      (∃ fault fault' later later', Ends σ code s (.failed fault later) ∧
        Ends σ' code s' (.failed fault' later') ∧ fault.SaysTheSame fault' ∧
        later.SameBindings later')) := by
  intro σ σ' zero s s' code
  have settings : σ.SameButCapacities σ' := rfl
  have same : s.SameBindings s' := by
    refine ⟨?_, .none, rfl, rfl, fun _ _ => rfl, rfl, rfl⟩
    intro name
    simp only [s, s', Table.get?_insert, Table.get?_empty]
    split <;> split <;> rfl
  exact ⟨settings, same, eval_layout_unobservable settings same code⟩

end SlotLang
