import SlotLang.Proofs.Machine.Discipline

/-!
# What a run can reach

A reference is come by in three ways only: it is read from a scope or a slot, or a cell is made.
So a run cannot get at a cell of the heap that nothing in its scopes leads to, and what it leaves
behind, in its value, in the scopes and in the objects it had to do with, leads to cells that could
be reached at the start and to cells made since.

The set of cells that can be reached changes while code runs: names are bound anew, slots are
written, and what was reached through them may be in hand. What does not change is the set of the
cells that are known, those that could be reached at the start and those made since. Nothing that is
known leads out of it.
-/

namespace SlotLang

/-- A cell of the heap. -/
inductive Cell where
  /-- An array. -/
  | array (id : ArrayId)
  /-- An object. -/
  | object (id : ObjectId)

/-- The cell that a value refers to. -/
def Value.cell? : Value → Option Cell
  | .int _ | .null => none
  | .array id => some (.array id)
  | .object id => some (.object id)

/-- A scope refers to a cell if it binds a name to a value that does. -/
def Scope.RefersTo (scope : Scope) (cell : Cell) : Prop :=
  ∃ name value, scope.get? name = some (.var value) ∧ value.cell? = some cell

/-- The cell has been made. References to others can be written down but never come about. -/
def Heap.Has (heap : Heap) : Cell → Prop
  | .array id => id.index < heap.arrays.size
  | .object id => id.index < heap.objects.size

/-- Two heaps hold the same in a cell, or neither has it. -/
def Heap.SameAt (heap heap' : Heap) : Cell → Prop
  | .array id => heap.arrays[id.index]? = heap'.arrays[id.index]?
  | .object id => heap.objects[id.index]? = heap'.objects[id.index]?

/-- The cells that the scopes of a state lead to, directly or from object to object. Arrays hold
integers and so lead no further. -/
inductive State.Reaches (s : State) : Cell → Prop where
  /-- What a global variable refers to. -/
  | globals {cell : Cell} (refers : s.globals.RefersTo cell) : Reaches s cell
  /-- What a local variable refers to. -/
  | locals {scope : Scope} {cell : Cell} (present : s.locals = some scope)
      (refers : scope.RefersTo cell) : Reaches s cell
  /-- What a slot of an object that is reached refers to. -/
  | slots {id : ObjectId} {cell : Cell} (reached : Reaches s (.object id))
      (refers : (s.heap.slots id).RefersTo cell) : Reaches s cell

namespace Scope.RefersTo

/-- A scope in which a value was bound refers to what it referred to before, or to what the value
refers to. -/
theorem of_insert {scope : Scope} {name : String} {binding : Binding} {cell : Cell}
    (refers : Scope.RefersTo (Table.insert scope name binding) cell) :
    scope.RefersTo cell ∨ ∃ value, binding = .var value ∧ value.cell? = some cell := by
  obtain ⟨tested, value, found, same⟩ := refers
  rw [Table.get?_insert] at found
  split at found
  · cases found
    exact .inr ⟨value, rfl, same⟩
  · exact .inl ⟨tested, value, found, same⟩

/-- An empty scope refers to nothing. -/
theorem not_empty (capacity : Nat) (cell : Cell) : ¬Scope.RefersTo (Table.empty capacity) cell := by
  rintro ⟨name, value, found, _⟩
  simp at found

end Scope.RefersTo

namespace Reach

variable {start s t u : State} {cell : Cell}

/-- A cell that could be reached at the start or was made since. These are the cells that a run may
use. -/
def Known (start s : State) (cell : Cell) : Prop :=
  start.Reaches cell ∨ s.heap.Has cell ∧ ¬start.heap.Has cell

/-- What is known stays known when more cells are made. -/
theorem Known.mono (grown : ∀ cell, s.heap.Has cell → t.heap.Has cell)
    (known : Known start s cell) : Known start t cell :=
  known.imp_right fun ⟨made, new⟩ => ⟨grown cell made, new⟩

/-- A run that began in `start` has kept to what it knows: it holds references to nothing else, and
nothing else has changed. -/
structure Confined (start s : State) : Prop where
  /-- Global variables refer to known cells. -/
  globals : ∀ cell, s.globals.RefersTo cell → Known start s cell
  /-- So do local variables. -/
  locals : ∀ scope, s.locals = some scope → ∀ cell, scope.RefersTo cell → Known start s cell
  /-- So do the slots of a known object. -/
  slots : ∀ id, Known start s (.object id) →
    ∀ cell, (s.heap.slots id).RefersTo cell → Known start s cell
  /-- Cells that could not be reached at the start are as they were. -/
  untouched : ∀ cell, start.heap.Has cell → ¬start.Reaches cell → s.heap.SameAt start.heap cell
  /-- No cell is lost. -/
  grown : ∀ cell, start.heap.Has cell → s.heap.Has cell

/-- Nothing known at the start leads out of what can be reached from there. -/
theorem Confined.refl (start : State) : Confined start start where
  globals := fun _ refers => .inl (.globals refers)
  locals := fun _ present _ refers => .inl (.locals present refers)
  slots := by
    intro id known cell refers
    rcases known with reached | ⟨made, new⟩
    · exact .inl (.slots reached refers)
    · exact absurd made new
  untouched := by
    rintro (id | id) _ _
    · exact rfl
    · exact rfl
  grown := fun _ => id

/-- Whatever can be reached now is known. By induction on how it is reached, since known objects
refer to known cells. -/
theorem Confined.known_of_reaches (confined : Confined start s) (reached : s.Reaches cell) :
    Known start s cell := by
  induction reached with
  | globals refers => exact confined.globals _ refers
  | locals present refers => exact confined.locals _ present _ refers
  | slots _ refers known => exact confined.slots _ known _ refers

/-- A cell that is known is not one of those that must be left alone. -/
theorem Known.not_foreign (known : Known start s cell) (existed : start.heap.Has cell)
    (foreign : ¬start.Reaches cell) : False := by
  rcases known with reached | ⟨_, new⟩
  · exact foreign reached
  · exact new existed

/-- Only known cells are in hand, and scopes that lead to no others. Later states have the cells of
earlier ones. -/
def discipline (start : State) : Discipline where
  states := Confined start
  onward := fun s t => ∀ cell, s.heap.Has cell → t.heap.Has cell
  arrays := fun s id => Known start s (.array id)
  objects := fun s id => Known start s (.object id)
  scopes := fun s scope => ∀ cell, scope.RefersTo cell → Known start s cell
  declares := fun _ => True
  defines := fun _ => True
  calls := fun _ => True

/-- A value may be in hand if it refers to nothing that is not known. -/
theorem values_iff {value : Value} :
    (discipline start).Values s value ↔ ∀ cell, value.cell? = some cell → Known start s cell := by
  cases value with
  | int | null => simp [Discipline.Values, Value.cell?]
  | array id => simp [Discipline.Values, Value.cell?, discipline]
  | object id => simp [Discipline.Values, Value.cell?, discipline]

/-! ## Changes of the scopes -/

/-- A change of the scopes to others that lead to known cells only. -/
theorem moves_scopes (confined : Confined start s) (sameHeap : t.heap = s.heap)
    (globals : ∀ cell, t.globals.RefersTo cell → Known start s cell)
    (locals : ∀ scope, t.locals = some scope → ∀ cell, scope.RefersTo cell → Known start s cell) :
    (discipline start).Moves s t := by
  have sameKnown (cell : Cell) : Known start t cell ↔ Known start s cell := by
    rw [Known, Known, sameHeap]
  refine ⟨⟨?_, ?_, ?_, ?_, ?_⟩, ?_⟩
  · exact fun cell refers => (sameKnown cell).mpr (globals cell refers)
  · exact fun scope present cell refers => (sameKnown cell).mpr (locals scope present cell refers)
  · intro id known cell refers
    rw [sameHeap] at refers
    exact (sameKnown cell).mpr (confined.slots id ((sameKnown _).mp known) cell refers)
  · exact fun cell => sameHeap ▸ confined.untouched cell
  · exact fun cell => sameHeap ▸ confined.grown cell
  · exact fun cell => sameHeap ▸ id

/-- A scope in which a name is bound to a value that may be in hand. -/
theorem known_insert {scope : Scope} (held : ∀ cell, scope.RefersTo cell → Known start s cell)
    (name : String) {value : Value} (valueHeld : (discipline start).Values s value) (cell : Cell)
    (refers : Scope.RefersTo (Table.insert scope name (.var value)) cell) : Known start s cell := by
  rcases refers.of_insert with older | ⟨value, ⟨⟩, same⟩
  · exact held cell older
  · exact values_iff.mp valueHeld cell same

/-- Binding a value in hand in the global scope makes it lead to known cells only, and changes no
cell. -/
theorem moves_bindGlobal (confined : Confined start s) (name : String) {binding : Binding}
    (held : ∀ value, binding = .var value → (discipline start).Values s value) :
    (discipline start).Moves s (s.bindGlobal name binding) := by
  refine moves_scopes (t := s.bindGlobal name binding) confined rfl ?_ confined.locals
  intro cell refers
  rcases refers.of_insert with older | ⟨value, same, refers⟩
  · exact confined.globals cell older
  · exact values_iff.mp (held value same) cell refers

/-- In particular a variable may be bound to a value in hand. -/
theorem moves_bindValue (confined : Confined start s) (name : String) {value : Value}
    (held : (discipline start).Values s value) :
    (discipline start).Moves s (s.bindGlobal name (.var value)) := by
  apply moves_bindGlobal confined name
  rintro _ ⟨⟩
  exact held

/-- The same for the local scope. -/
theorem moves_bindLocal (confined : Confined start s) {scope : Scope}
    (present : s.locals = some scope) (name : String) {value : Value}
    (held : (discipline start).Values s value) :
    (discipline start).Moves s { s with locals := some (scope.insert name (.var value)) } := by
  refine moves_scopes (t := { s with locals := some (scope.insert name (.var value)) })
    confined rfl confined.globals ?_
  rintro _ ⟨⟩
  exact known_insert (confined.locals scope present) name held

/-! ## Changes of the heap -/

/-- A change of the heap that takes no cell away, leaves alone what must be left alone, and does not
make what is known lead out of it. -/
theorem moves_heap (confined : Confined start s) (heap : Heap)
    (grown : ∀ cell, s.heap.Has cell → heap.Has cell)
    (slots : ∀ id, Known start { s with heap } (.object id) →
      ∀ cell, (heap.slots id).RefersTo cell → Known start { s with heap } cell)
    (untouched : ∀ cell, start.heap.Has cell → ¬start.Reaches cell → heap.SameAt s.heap cell) :
    (discipline start).Moves s { s with heap } := by
  refine ⟨⟨?_, ?_, slots, ?_, ?_⟩, grown⟩
  · exact fun cell refers => (confined.globals cell refers).mono grown
  · exact fun scope present cell refers => (confined.locals scope present cell refers).mono grown
  · intro cell existed foreign
    have same := confined.untouched cell existed foreign
    have kept := untouched cell existed foreign
    cases cell with
    | array id => exact Eq.trans kept same
    | object id => exact Eq.trans kept same
  · exact fun cell existed => grown cell (confined.grown cell existed)

/-- A new array is a cell made since, and so it is known. It refers to nothing. -/
theorem moves_addArray (confined : Confined start s) (elements : Elements) :
    (discipline start).Moves s { s with heap := (s.heap.addArray elements).2 } := by
  have grown (cell : Cell) (made : s.heap.Has cell) : (s.heap.addArray elements).2.Has cell := by
    cases cell with
    | array id =>
      simp only [Heap.Has, Heap.addArray, Array.size_push] at made ⊢
      omega
    | object id => exact made
  apply moves_heap confined _ grown
  · exact fun id known cell refers => (confined.slots id known cell refers).mono grown
  · intro cell existed _
    have made := confined.grown cell existed
    cases cell with
    | array id =>
      simp only [Heap.SameAt, Heap.addArray, Array.getElem?_push, Heap.Has] at made ⊢
      rw [if_neg (by omega)]
    | object id => exact rfl

/-- An array that is written is known, so it is none of the cells that have to be left alone. -/
theorem moves_updateArray (confined : Confined start s) {id : ArrayId}
    (known : Known start s (.array id)) (change : Elements → Elements) :
    (discipline start).Moves s { s with heap := s.heap.updateArray id change } := by
  have grown (cell : Cell) (made : s.heap.Has cell) : (s.heap.updateArray id change).Has cell := by
    cases cell with
    | array id => simpa only [Heap.Has, Heap.updateArray, Array.size_modify] using made
    | object id => exact made
  apply moves_heap confined _ grown
  · exact fun id known cell refers => (confined.slots id known cell refers).mono grown
  · intro cell existed foreign
    cases cell with
    | array tested =>
      simp only [Heap.SameAt, Heap.updateArray, Array.getElem?_modify]
      split
      · next same =>
        obtain rfl : id = tested := congrArg ArrayId.mk same
        exact (known.not_foreign existed foreign).elim
      · rfl
    | object id => exact rfl

/-- A new object leads to what its slots lead to. An object that is known and not new was known. -/
theorem moves_addObject (confined : Confined start s) {scope : Scope}
    (held : ∀ cell, scope.RefersTo cell → Known start s cell) :
    (discipline start).Moves s { s with heap := (s.heap.addObject scope).2 } := by
  have grown (cell : Cell) (made : s.heap.Has cell) : (s.heap.addObject scope).2.Has cell := by
    cases cell with
    | array id => exact made
    | object id =>
      simp only [Heap.Has, Heap.addObject, Array.size_push] at made ⊢
      omega
  apply moves_heap confined _ grown
  · intro id known cell refers
    simp only [Heap.slots, Heap.addObject, Array.getElem?_push] at refers
    split at refers
    · exact (held cell refers).mono grown
    · next older =>
      -- The object is known now; it was known before, since it is not the one just made.
      have knownBefore : Known start s (.object id) := by
        refine known.imp_right (And.imp_left fun made => ?_)
        simp only [Heap.Has, Heap.addObject, Array.size_push] at made ⊢
        omega
      exact (confined.slots id knownBefore cell refers).mono grown
  · intro cell existed _
    have made := confined.grown cell existed
    cases cell with
    | array id => exact rfl
    | object id =>
      simp only [Heap.SameAt, Heap.addObject, Array.getElem?_push, Heap.Has] at made ⊢
      rw [if_neg (by omega)]

/-- A slot of a known object is bound to a value in hand, which refers to known cells as the old one
did. -/
theorem moves_putSlot (confined : Confined start s) {id : ObjectId}
    (known : Known start s (.object id)) (name : String) {value : Value}
    (held : (discipline start).Values s value) :
    (discipline start).Moves s { s with heap := s.heap.putSlot id name (.var value) } := by
  have sameHas (cell : Cell) :
      (s.heap.putSlot id name (.var value)).Has cell ↔ s.heap.Has cell := by
    cases cell with
    | array id => exact .rfl
    | object id => simp only [Heap.Has, Heap.putSlot, Array.size_modify]
  have sameKnown (cell : Cell) :
      Known start { s with heap := s.heap.putSlot id name (.var value) } cell ↔
        Known start s cell := by
    rw [Known, Known, sameHas]
  apply moves_heap confined _ fun cell => (sameHas cell).mpr
  · intro tested knownTested cell refers
    rw [sameKnown] at knownTested ⊢
    have before := confined.slots tested knownTested
    simp only [Heap.slots, Heap.putSlot, Array.getElem?_modify] at before refers
    split at refers
    · cases found : s.heap.objects[tested.index]? with
      | none =>
        -- A slot of an object that was never made cannot be written.
        rw [found] at refers
        exact (Scope.RefersTo.not_empty 0 cell refers).elim
      | some slots =>
        rw [found] at refers before
        exact known_insert before name held cell refers
    · exact before cell refers
  · intro cell existed foreign
    cases cell with
    | array tested => exact rfl
    | object tested =>
      simp only [Heap.SameAt, Heap.putSlot, Array.getElem?_modify]
      split
      · next same =>
        obtain rfl : id = tested := congrArg ObjectId.mk same
        exact (known.not_foreign existed foreign).elim
      · rfl

/-! ## Every run is confined -/

/-- What has just been made is known. It was not there at the start, since cells are never given
back. -/
theorem known_new (confined : Confined start s) (made : t.heap.Has cell)
    (new : ¬s.heap.Has cell) : Known start t cell :=
  .inr ⟨made, fun existed => new (confined.grown cell existed)⟩

/-- Every operation on the state keeps to the cells that are known. A value in hand refers to such a
cell, and a scope in hand leads to such cells only. -/
theorem upheld (start : State) (σ : Settings) : (discipline start).Upheld σ where
  refl := fun _ _ => id
  trans := fun first second cell made => second cell (first cell made)
  arrays := fun grown known => known.mono grown
  objects := fun grown known => known.mono grown
  scopes := fun grown held cell refers => (held cell refers).mono grown
  freshLocals := fun _ cell refers => (Scope.RefersTo.not_empty _ cell refers).elim
  freshObject := fun _ cell refers => (Scope.RefersTo.not_empty _ cell refers).elim
  bindValue := fun name held valueHeld => known_insert held name valueHeld
  bindRoutine := by
    intro s scope routine name held _ cell refers
    rcases refers.of_insert with older | ⟨_, ⟨⟩, _⟩
    exact held cell older
  value := fun held found =>
    values_iff.mpr fun cell same => held cell ⟨_, _, found, same⟩
  routine := fun _ _ => trivial
  globals := Confined.globals
  localValue := fun confined present found =>
    values_iff.mpr fun cell same => confined.locals _ present cell ⟨_, _, found, same⟩
  slots := fun confined known => confined.slots _ known
  print := fun text confined => moves_scopes confined rfl confined.globals confined.locals
  addArray := fun elements confined =>
    ⟨moves_addArray confined elements,
      known_new confined (by simp [Heap.Has, Heap.addArray]) (by simp [Heap.Has])⟩
  updateArray := fun change confined known => moves_updateArray confined known change
  addObject := fun confined held =>
    ⟨moves_addObject confined held,
      known_new confined (by simp [Heap.Has, Heap.addObject]) (by simp [Heap.Has])⟩
  putSlot := fun name confined known held => moves_putSlot confined known name held
  assign := by
    intro s t name value confined held assigned
    obtain ⟨scope, present, rfl⟩ | rfl := State.assign_cases assigned
    · exact moves_bindLocal confined present name held
    · exact moves_bindValue confined name held
  declare := by
    intro s name value _ confined held
    obtain ⟨scope, present, same⟩ | same := s.declare_cases name value
    · rw [same]
      exact moves_bindLocal confined present name held
    · rw [same]
      exact moves_bindValue confined name held
  bindGlobal := by
    intro s routine _ confined
    apply moves_bindGlobal confined
    rintro _ ⟨⟩

/-- The scope of a call leads to what its arguments lead to. The caller's scope, which is put back
afterwards, leads to cells that have stayed known. -/
theorem allows_enter (σ : Settings) {scope : Scope} {body : Action Value}
    (bodies : (discipline start).Keeps (discipline start).Values body) (confined : Confined start s)
    (held : ∀ cell, scope.RefersTo cell → Known start s cell) :
    (discipline start).Allows (discipline start).Values s (Eval.enter σ scope body s) := by
  have entered : (discipline start).Moves s
      { s with locals := some scope, depth := s.depth + 1 } := by
    refine moves_scopes (t := { s with locals := some scope, depth := s.depth + 1 })
      confined rfl confined.globals ?_
    rintro _ ⟨⟩
    exact held
  apply Discipline.allows_enter (upheld start σ) confined bodies entered.states
  case left =>
    intro t moves
    have left : (discipline start).Moves t
        { t with locals := s.locals, depth := t.depth - 1 } := by
      refine moves_scopes (t := { t with locals := s.locals, depth := t.depth - 1 })
        moves.states rfl moves.states.globals ?_
      exact fun scope present cell refers =>
        (confined.locals scope present cell refers).mono moves.onward
    exact ⟨left.states, moves.onward⟩
  case held => exact id

/-- Every evaluation keeps to what it knows, whichever routines it calls. The induction is on the
bound. -/
theorem keeps_eval (start : State) (σ : Settings) (bound : Nat) (code : Code) :
    (discipline start).Keeps (discipline start).Values (eval σ bound code) := by
  induction bound generalizing code with
  | zero => exact fun _ _ => .interrupted
  | succ bound inductionHypothesis =>
    rw [eval_succ]
    apply Discipline.keeps_step (upheld start σ)
    case callable => exact fun _ _ => trivial
    case parts => exact fun part _ => inductionHypothesis part
    case declared => exact fun _ _ => trivial
    case defined => exact fun _ _ => trivial
    case called =>
      intro routine scope s _ confined held
      exact allows_enter σ (inductionHypothesis _) confined held

end Reach

/-! ## References after a run -/

/-- The cells that are referred to after a run from `s`: by the value it yields, by a scope, or by
an object that can be reached afterwards, could be reached before or was made in between. -/
inductive Outcome.RefersAfter (s : State) (outcome : Outcome Value) : Cell → Prop where
  /-- The value. -/
  | value {value : Value} {t : State} {cell : Cell} (yields : outcome = .done value t)
      (refers : value.cell? = some cell) : RefersAfter s outcome cell
  /-- A global variable. -/
  | globals {t : State} {cell : Cell} (left : outcome.state? = some t)
      (refers : t.globals.RefersTo cell) : RefersAfter s outcome cell
  /-- A local variable. -/
  | locals {t : State} {scope : Scope} {cell : Cell} (left : outcome.state? = some t)
      (present : t.locals = some scope) (refers : scope.RefersTo cell) : RefersAfter s outcome cell
  /-- A slot of an object that is reached afterwards, was reached before or is new. -/
  | slots {t : State} {id : ObjectId} {cell : Cell} (left : outcome.state? = some t)
      (concerned : t.Reaches (.object id) ∨ s.Reaches (.object id) ∨ ¬s.heap.Has (.object id))
      (refers : (t.heap.slots id).RefersTo cell) : RefersAfter s outcome cell

/-- An object that does not exist refers to nothing. -/
theorem Heap.Has.of_refers {heap : Heap} {id : ObjectId} {cell : Cell}
    (refers : (heap.slots id).RefersTo cell) : heap.Has (.object id) := by
  by_contra missing
  rw [Heap.Has, Nat.not_lt] at missing
  rw [Heap.slots, Array.getElem?_eq_none missing] at refers
  exact Scope.RefersTo.not_empty 0 cell refers

/-- All that is referred to after a run is known, whether the run ended with a value or failed. -/
theorem Reach.known_of_refersAfter {σ : Settings} {bound : Nat} {code : Code} {s t : State}
    (ended : (eval σ bound code s).state? = some t) {cell : Cell}
    (refers : (eval σ bound code s).RefersAfter s cell) : Known s t cell := by
  have allowed := keeps_eval s σ bound code s (.refl s)
  have confined := (allowed.moves ended).states
  have same {u : State} (left : (eval σ bound code s).state? = some u) : u = t :=
    Option.some.inj (left.symm.trans ended)
  cases refers with
  | value yields refers =>
    rw [yields] at allowed ended
    cases ended
    cases allowed with
    | done _ held => exact values_iff.mp held cell refers
  | globals left refers =>
    obtain rfl := same left
    exact confined.globals cell refers
  | locals left present refers =>
    obtain rfl := same left
    exact confined.locals _ present cell refers
  | slots left concerned refers =>
    obtain rfl := same left
    apply confined.slots _ _ cell refers
    rcases concerned with reached | reached | new
    · exact confined.known_of_reaches reached
    · exact .inl reached
    · exact .inr ⟨.of_refers refers, new⟩

/-- Evaluation touches only the heap that it can reach. However code ends, an array or an object
that existed and could not be reached from the scopes holds what it held. What is referred to
afterwards could be reached at the start or was made since; so if there was a cell for every
reference at the start, then there is one for every reference afterwards. -/
theorem only_reachable_heap {σ : Settings} {bound : Nat} {code : Code} {s t : State}
    (ended : (eval σ bound code s).state? = some t) :
    (∀ cell, s.heap.Has cell → ¬s.Reaches cell → t.heap.SameAt s.heap cell) ∧
    (∀ cell, (eval σ bound code s).RefersAfter s cell →
      s.Reaches cell ∨ t.heap.Has cell ∧ ¬s.heap.Has cell) ∧
    ((∀ cell, s.Reaches cell → s.heap.Has cell) →
      ∀ cell, (eval σ bound code s).RefersAfter s cell → t.heap.Has cell) := by
  have confined := ((Reach.keeps_eval s σ bound code s (.refl s)).moves ended).states
  refine ⟨confined.untouched, fun cell => Reach.known_of_refersAfter ended, ?_⟩
  intro sound cell refers
  rcases Reach.known_of_refersAfter ended refers with reached | ⟨made, _⟩
  · exact confined.grown cell (sound cell reached)
  · exact made

/-- The array of an object that a name leads to is written, the object is changed to refer to a new
one, and then the run fails. Nothing leads to another object with an array of its own. -/
theorem only_reachable_heap_after_fault :
    let slot (name : String) (id : Nat) : Scope := (Table.empty 1).insert name (.var (.array ⟨id⟩))
    let s : State := { State.initial .default .unlimited with
      globals := (Table.empty 1).insert "a" (.var (.object ⟨0⟩))
      heap := ⟨#[#[1], #[2]], #[slot "x" 0, slot "y" 1]⟩ }
    let writes : Stmt := .expr (.callSlot (.slot (.ref "a") "x") "set" [.int 0, .int 7])
    let links : Stmt := .expr (.setSlot (.ref "a") "x" (.object (.ref "a") []))
    let code : Code := .stmt (.seq writes (.seq links (.expr (.ref "b"))))
    (∀ cell, s.Reaches cell → cell = .object ⟨0⟩ ∨ cell = .array ⟨0⟩) ∧
      ∃ t, (eval .default 9 code s).state? = some t ∧
        t.heap.arrays = #[#[7], #[2]] ∧ t.heap.objects.size = 3 ∧
        t.heap.SameAt s.heap (.object ⟨1⟩) ∧
        ∀ cell, (eval .default 9 code s).RefersAfter s cell → t.heap.Has cell := by
  intro slot s writes links code
  have reached (cell : Cell) (reaches : s.Reaches cell) :
      cell = .object ⟨0⟩ ∨ cell = .array ⟨0⟩ := by
    induction reaches with
    | globals refers =>
      rcases refers.of_insert with older | ⟨_, ⟨⟩, ⟨⟩⟩
      · exact (Scope.RefersTo.not_empty 1 _ older).elim
      · exact .inl rfl
    | locals present => cases present
    | slots _ refers inductionHypothesis =>
      rcases inductionHypothesis with ⟨⟨⟩⟩ | ⟨⟨⟩⟩
      rcases refers.of_insert with older | ⟨_, ⟨⟩, ⟨⟩⟩
      · exact (Scope.RefersTo.not_empty 1 _ older).elim
      · exact .inr rfl
  have sound (cell : Cell) (reaches : s.Reaches cell) : s.heap.Has cell := by
    rcases reached cell reaches with rfl | rfl
    · show 0 < 2
      decide
    · show 0 < 2
      decide
  have found : (eval .default 9 code s).state?.map
      (fun t => (t.heap.arrays, t.heap.objects.size)) = some (#[#[7], #[2]], 3) := by
    decide +kernel
  obtain ⟨t, ended, cells⟩ := Option.map_eq_some_iff.mp found
  obtain ⟨arrays, objects⟩ := Prod.mk.inj cells
  obtain ⟨untouched, _, refers⟩ := only_reachable_heap ended
  refine ⟨reached, t, ended, arrays, objects, untouched (.object ⟨1⟩) ?_ ?_, refers sound⟩
  · show 1 < 2
    decide
  · intro reaches
    rcases reached _ reaches with ⟨⟨⟩⟩ | ⟨⟨⟩⟩

end SlotLang
