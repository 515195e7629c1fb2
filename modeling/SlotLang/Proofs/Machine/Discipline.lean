import SlotLang.Proofs.Machine.Evolution

/-!
# Runs under a discipline

What is said here is said of one run, and of what the run has in hand. A value is in hand while
other code is evaluated, so it is used in a later state than the one in which it was come by. A
discipline says in which states a run may be, which state may come after which, and which identities
and scopes may be in hand in a state; what may be in hand in a state may be in hand in every state
after it. A comparison of two runs cannot say this, since it relates values without regard to the
states in which they are held.

A discipline is upheld if every single operation, done with what is in hand, leads to a state that
may come next. From that alone the evaluation of any code keeps to the discipline, construct by
construct, provided that the calls in it do.
-/

namespace SlotLang

/-- What a run may be in, hold and declare. What is in hand is judged by the state in which it is
held, and what may be declared or called is judged once and for all. -/
structure Discipline where
  /-- In which states code may be evaluated. -/
  states : State → Prop
  /-- Which state may come after which. -/
  onward : State → State → Prop
  /-- Which arrays may be in hand. -/
  arrays : State → ArrayId → Prop
  /-- Which objects may be in hand. -/
  objects : State → ObjectId → Prop
  /-- Which scopes may be in hand, the slots of an object among them. -/
  scopes : State → Scope → Prop
  /-- Which variables may be declared. -/
  declares : String → Prop
  /-- Which functions may be declared. -/
  defines : Routine → Prop
  /-- Which routines may be called. -/
  calls : Routine → Prop

namespace Discipline

variable {D : Discipline} {α β : Type}

/-- Which values may be in hand: integers and null always, and references as their identities. So
every condition on values comes down to one on arrays and objects. -/
def Values (D : Discipline) (s : State) : Value → Prop
  | .int _ | .null => True
  | .array id => D.arrays s id
  | .object id => D.objects s id

/-- Nothing is asked of what is in hand. This is for what an action yields to its own construct
only, such as an integer that was checked. -/
def Anything : State → α → Prop :=
  fun _ _ => True

/-- A state in which code may be evaluated and which may come after `s`. -/
structure Moves (D : Discipline) (s t : State) : Prop where
  /-- Code may be evaluated there. -/
  states : D.states t
  /-- It may come after `s`. -/
  onward : D.onward s t

/-- An outcome, from `s`, of keeping to the discipline. What it yields may be in hand in the state
that it leaves. -/
inductive Allows (D : Discipline) (V : State → α → Prop) (s : State) : Outcome α → Prop where
  /-- A value that may be in hand in the state that is left. -/
  | done {value : α} {t : State} (moves : D.Moves s t) (held : V t value) :
      Allows D V s (.done value t)
  /-- A fault, which holds nothing. -/
  | failed (fault : Fault) {t : State} (moves : D.Moves s t) : Allows D V s (.failed fault t)
  /-- A run that was cut short leaves no state. -/
  | interrupted : Allows D V s .interrupted

/-- Whether code ends with a value or fails, the state that it leaves is one that may come next. An
interrupted run leaves none. -/
theorem Allows.moves {V : State → α → Prop} {s t : State} {outcome : Outcome α}
    (allowed : D.Allows V s outcome) (ended : outcome.state? = some t) : D.Moves s t := by
  cases allowed with
  | done moves held =>
    cases ended
    exact moves
  | failed fault moves =>
    cases ended
    exact moves
  | interrupted => cases ended

/-- An action that keeps to the discipline from every state in which code may be evaluated. From
other states it may do anything. -/
def Keeps (D : Discipline) (V : State → α → Prop) (action : Action α) : Prop :=
  ∀ s, D.states s → D.Allows V s (action s)

/-- A discipline that every operation on the state keeps to. The first laws say how what is in hand
lasts, those in the middle what may be come by in a state, and the last ones where an operation may
lead. -/
structure Upheld (D : Discipline) (σ : Settings) : Prop where
  /-- A state may stay. -/
  refl : ∀ s, D.onward s s
  /-- States that may come later make one order. -/
  trans : ∀ {s t u}, D.onward s t → D.onward t u → D.onward s u
  /-- Arrays stay in hand. -/
  arrays : ∀ {s t id}, D.onward s t → D.arrays s id → D.arrays t id
  /-- Objects stay in hand. -/
  objects : ∀ {s t id}, D.onward s t → D.objects s id → D.objects t id
  /-- Scopes stay in hand. -/
  scopes : ∀ {s t scope}, D.onward s t → D.scopes s scope → D.scopes t scope
  /-- The empty scope of a call may be in hand anywhere. -/
  freshLocals : ∀ s, D.scopes s (Table.empty σ.localCapacity)
  /-- So may the slots of an object that has no parent. -/
  freshObject : ∀ s, D.scopes s (Table.empty σ.objectCapacity)
  /-- A value in hand may be bound. -/
  bindValue : ∀ {s scope value} (name : String), D.scopes s scope → D.Values s value →
    D.scopes s (scope.insert name (.var value))
  /-- A routine that may be called may be bound. -/
  bindRoutine : ∀ {s scope routine} (name : String), D.scopes s scope → D.calls routine →
    D.scopes s (scope.insert name (.routine routine))
  /-- What a scope in hand binds to a name may be in hand. -/
  value : ∀ {s scope name value}, D.scopes s scope → scope.get? name = some (.var value) →
    D.Values s value
  /-- And the routines in it may be called. -/
  routine : ∀ {s scope name routine}, D.scopes s scope →
    scope.get? name = some (.routine routine) → D.calls routine
  /-- The global scope may always be in hand. -/
  globals : ∀ {s}, D.states s → D.scopes s s.globals
  /-- Of the local scope its values may. -/
  localValue : ∀ {s scope name value}, D.states s → s.locals = some scope →
    scope.get? name = some (.var value) → D.Values s value
  /-- The slots of an object in hand may be in hand. -/
  slots : ∀ {s id}, D.states s → D.objects s id → D.scopes s (s.heap.slots id)
  /-- A text may be written. -/
  print : ∀ {s} (text : String), D.states s →
    D.Moves s { s with sink := (s.sink.write text).2 }
  /-- An array may be made, and is then in hand. -/
  addArray : ∀ {s} (elements : Elements), D.states s →
    D.Moves s { s with heap := (s.heap.addArray elements).2 } ∧
      D.arrays { s with heap := (s.heap.addArray elements).2 } ⟨s.heap.arrays.size⟩
  /-- An array in hand may be changed. -/
  updateArray : ∀ {s id} (change : Elements → Elements), D.states s → D.arrays s id →
    D.Moves s { s with heap := s.heap.updateArray id change }
  /-- An object may be made of slots in hand, and is then in hand. -/
  addObject : ∀ {s scope}, D.states s → D.scopes s scope →
    D.Moves s { s with heap := (s.heap.addObject scope).2 } ∧
      D.objects { s with heap := (s.heap.addObject scope).2 } ⟨s.heap.objects.size⟩
  /-- A slot of an object in hand may be bound to a value in hand. -/
  putSlot : ∀ {s id value} (name : String), D.states s → D.objects s id → D.Values s value →
    D.Moves s { s with heap := s.heap.putSlot id name (.var value) }
  /-- A variable that there is may be assigned a value in hand. -/
  assign : ∀ {s t name value}, D.states s → D.Values s value → s.assign name value = .ok t →
    D.Moves s t
  /-- A variable that may be declared is declared with a value in hand. -/
  declare : ∀ {s name value}, D.declares name → D.states s → D.Values s value →
    D.Moves s (s.declare name value)
  /-- A function that may be declared is declared. -/
  bindGlobal : ∀ {s routine}, D.defines routine → D.states s →
    D.Moves s (s.bindGlobal routine.name (.routine routine))

section Upheld

variable {σ : Settings} {run : Evaluator} {s : State} {V : State → α → Prop}
  {W : State → β → Prop} (laws : D.Upheld σ)

include laws

/-! ## Putting actions together -/

/-- Staying in a state is a move, from a state in which code may be evaluated. -/
theorem Moves.refl (kept : D.states s) : D.Moves s s :=
  ⟨kept, laws.refl s⟩

/-- What is allowed after a move is allowed from the state before it. This is where the order of
states has to be transitive. -/
theorem Allows.after {t : State} (moves : D.Moves s t) {outcome : Outcome α}
    (later : D.Allows V t outcome) : D.Allows V s outcome := by
  cases later with
  | done next held => exact .done ⟨next.states, laws.trans moves.onward next.onward⟩ held
  | failed fault next => exact .failed fault ⟨next.states, laws.trans moves.onward next.onward⟩
  | interrupted => exact .interrupted

/-- One action after another, where the second starts with what the first yields in hand. If the
first fails or is interrupted, there is no second. -/
theorem Allows.bind {first : Action α} {next : α → Action β} (start : D.Allows V s (first s))
    (later : ∀ value t, D.Moves s t → V t value → D.Allows W t (next value t)) :
    D.Allows W s ((first >>= next) s) := by
  show D.Allows W s (Action.bind first next s)
  unfold Action.bind
  generalize first s = ended at start ⊢
  cases start with
  | done moves held => exact .after laws moves (later _ _ moves held)
  | failed fault moves => exact .failed fault moves
  | interrupted => exact .interrupted

/-- Yielding what is in hand changes nothing, so that it is in hand afterwards. -/
theorem allows_pure (kept : D.states s) {value : α} (held : V s value) :
    D.Allows V s ((pure value : Action α) s) :=
  .done (.refl laws kept) held

/-- Nor does failing, and a fault holds nothing that could be in hand. -/
theorem allows_fail (kept : D.states s) (fault : Fault) :
    D.Allows V s ((Action.fail fault : Action α) s) :=
  .failed fault (.refl laws kept)

/-- An answer that was found without touching the state is in hand if it is a value. If it is a
fault, the action fails and the state stays. -/
theorem allows_ofExcept (kept : D.states s) {answer : Except Fault α}
    (held : ∀ value, answer = .ok value → V s value) :
    D.Allows V s (Action.ofExcept answer s) := by
  cases answer with
  | ok value => exact allows_pure laws kept (held value rfl)
  | error fault => exact allows_fail laws kept fault

/-! ## Operations on the state -/

omit laws in
/-- An operator yields an integer or null, which may be in hand anywhere. That it yields no
reference is said by the value corresponding to itself when no identity does. -/
theorem values_of_plain {value : Value}
    (plain : value.Corresponds (fun _ _ => False) (fun _ _ => False) value) :
    D.Values s value := by
  cases value with
  | int | null => trivial
  | array id =>
    cases plain
    contradiction
  | object id =>
    cases plain
    contradiction

/-- Printing changes the sink, also where the sink refuses the text. Both ways lead to a state that
may come next. -/
theorem keeps_print (text : String) : D.Keeps Anything (Eval.print text) := by
  intro s kept
  have moves := laws.print text kept
  unfold Eval.print
  generalize s.sink.write text = written at moves ⊢
  obtain ⟨refused, sink⟩ := written
  cases refused with
  | none => exact .done moves trivial
  | some fault => exact .failed fault moves

/-- An operator may write to the array that is in hand, and to no other. It yields an integer or
null, which is always in hand, so its value needs no further hypothesis. -/
theorem allows_applyElements (kept : D.states s) {id : ArrayId} (array : D.arrays s id)
    (op : ArrayOp) (operands : List Int64) :
    D.Allows D.Values s (Eval.applyElements id op operands s) := by
  unfold Eval.applyElements
  cases answered : op.value (s.heap.elements id) operands with
  | ok value =>
    exact .done (laws.updateArray _ kept array)
      (values_of_plain (ArrayOp.corresponds_of_value answered))
  | error fault => exact .failed fault (.refl laws kept)

/-- A value in a slot of an object in hand may be in hand, because the slots of that object may. -/
theorem allows_readSlot (kept : D.states s) {id : ObjectId} (object : D.objects s id)
    (name : String) : D.Allows D.Values s (Eval.readSlot id name s) := by
  apply allows_ofExcept laws kept
  intro value read
  unfold Heap.readSlot at read
  split at read
  · next found =>
    cases read
    exact laws.value (laws.slots kept object) found
  · cases read
  · cases read

/-- A method of an object in hand may be called, as it is found among the slots of that object. -/
theorem allows_findMethod (kept : D.states s) {id : ObjectId} (object : D.objects s id)
    (name : String) :
    D.Allows (fun _ routine => D.calls routine) s (Eval.findMethod id name s) := by
  apply allows_ofExcept laws kept
  intro routine found
  unfold Heap.method at found
  split at found
  · next held =>
    cases found
    exact laws.routine (laws.slots kept object) held
  · cases found
  · cases found

/-- A function that is found by its name may be called, because the global scope may always be in
hand. -/
theorem keeps_findFunction (name : String) :
    D.Keeps (fun _ routine => D.calls routine) (Eval.findFunction name) := by
  intro s kept
  apply allows_ofExcept laws kept
  intro routine found
  unfold State.function at found
  split at found
  · next held =>
    cases found
    exact laws.routine (laws.globals kept) held
  · cases found
  · cases found

/-- A variable is read from the local or the global scope. Of the local one only its values are
asked for, since calls do not look there. -/
theorem keeps_readVariable (name : String) : D.Keeps D.Values (Eval.readVariable name) := by
  intro s kept
  apply allows_ofExcept laws kept
  intro value read
  unfold State.readVariable at read
  split at read
  · next found =>
    cases read
    rcases Option.or_eq_some_iff.mp found with inner | ⟨_, outer⟩
    · obtain ⟨scope, present, bound⟩ := Option.bind_eq_some_iff.mp inner
      exact laws.localValue kept present bound
    · exact laws.value (laws.globals kept) outer
  · cases read
  · cases read

/-- Assigning a value in hand to a variable that there is leads to a state that may come next. With
no such variable the state stays as it is. -/
theorem allows_assignValue (kept : D.states s) {value : Value} (held : D.Values s value)
    (name : String) : D.Allows D.Values s (Eval.assignValue name value s) := by
  unfold Eval.assignValue
  cases assigned : s.assign name value with
  | ok t => exact .done (laws.assign kept held assigned) trivial
  | error fault => exact .failed fault (.refl laws kept)

/-! ## Arguments and printing -/

/-- Expressions that are to be integers are evaluated in order, and only integers are handed on. So
nothing is asked of what is in hand. -/
theorem keeps_integers (what : Nat → String) (position : Nat) {args : List Expr}
    (evaluated : ∀ arg ∈ args, D.Keeps D.Values (run (.expr arg))) :
    D.Keeps Anything (Eval.integers run what position args) := by
  induction args generalizing position with
  | nil => exact fun s kept => allows_pure laws kept trivial
  | cons arg rest inductionHypothesis =>
    obtain ⟨head, tail⟩ := List.forall_mem_cons.mp evaluated
    intro s kept
    apply (head s kept).bind laws
    intro value t moved _
    have checked : D.Allows Anything t (Action.ofExcept (value.expectInt (what position)) t) :=
      allows_ofExcept laws moved.states fun _ _ => trivial
    apply checked.bind laws
    intro n t moved _
    apply (inductionHypothesis (position + 1) tail t moved.states).bind laws
    intro others t moved _
    exact allows_pure laws moved.states trivial

/-- Arguments are evaluated in order and bound in the scope for the callee. Each may change the
state, and the scope in hand stays in hand over the change. -/
theorem allows_bindArguments {pairs : List (String × Expr)}
    (evaluated : ∀ pair ∈ pairs, D.Keeps D.Values (run (.expr pair.2))) (kept : D.states s)
    {scope : Scope} (held : D.scopes s scope) :
    D.Allows D.scopes s (Eval.bindArguments run pairs scope s) := by
  induction pairs generalizing s scope with
  | nil => exact allows_pure laws kept held
  | cons pair rest inductionHypothesis =>
    obtain ⟨head, tail⟩ := List.forall_mem_cons.mp evaluated
    apply (head s kept).bind laws
    intro value t moved valueHeld
    exact inductionHypothesis tail moved.states
      (laws.bindValue pair.1 (laws.scopes moved.onward held) valueHeld)

/-- A format is filled in with the texts of its arguments, so no argument stays in hand, and the
value is null. -/
theorem keeps_printf (format : String) {args : List Expr}
    (evaluated : ∀ arg ∈ args, D.Keeps D.Values (run (.expr arg))) :
    D.Keeps D.Values (Eval.printf run format args) := by
  intro s kept
  unfold Eval.printf
  split
  · exact allows_fail laws kept _
  · apply (keeps_integers laws _ 0 evaluated s kept).bind laws
    intro values t moved _
    apply (keeps_print laws _ t moved.states).bind laws
    intro _ t moved _
    exact allows_pure laws moved.states trivial

/-! ## Arrays and objects -/

/-- An array is new and is in hand from the state on in which it was made. Its length and its
elements are integers, so nothing else has to be. -/
theorem keeps_array {length init : Expr} (lengths : D.Keeps D.Values (run (.expr length)))
    (inits : D.Keeps D.Values (run (.expr init))) :
    D.Keeps D.Values (Eval.array run length init) := by
  have checked {γ : Type} {t : State} (kept : D.states t) (answer : Except Fault γ) :
      D.Allows Anything t (Action.ofExcept answer t) :=
    allows_ofExcept laws kept fun _ _ => trivial
  intro s kept
  apply (lengths s kept).bind laws
  intro _ t moved _
  apply (checked moved.states _).bind laws
  intro length t moved _
  apply (inits t moved.states).bind laws
  intro _ t moved _
  apply (checked moved.states _).bind laws
  intro init t moved _
  apply (checked moved.states _).bind laws
  intro elements t moved _
  obtain ⟨moves, held⟩ := laws.addArray elements moved.states
  exact .done moves held

/-- A member is added to the slots in hand: a variable with its initial value, or a method that may
be called. -/
theorem allows_addMember {member : Member}
    (evaluated : ∀ e, member.init? = some e → D.Keeps D.Values (run (.expr e)))
    (callable : ∀ routine, member.routine? = some routine → D.calls routine)
    (kept : D.states s) {slots : Scope} (held : D.scopes s slots) :
    D.Allows D.scopes s (Eval.addMember run slots member s) := by
  cases member with
  | var name init =>
    apply (evaluated init rfl s kept).bind laws
    intro value t moved valueHeld
    exact allows_pure laws moved.states
      (laws.bindValue name (laws.scopes moved.onward held) valueHeld)
  | method routine =>
    exact allows_pure laws kept (laws.bindRoutine routine.name held (callable routine rfl))

/-- Members are added in order, to slots that stay in hand while the initial values are
evaluated. -/
theorem allows_addMembers {members : List Member}
    (evaluated : ∀ e ∈ members.filterMap Member.init?, D.Keeps D.Values (run (.expr e)))
    (callable : ∀ routine ∈ members.filterMap Member.routine?, D.calls routine)
    (kept : D.states s) {slots : Scope} (held : D.scopes s slots) :
    D.Allows D.scopes s (Eval.addMembers run slots members s) := by
  induction members generalizing s slots with
  | nil => exact allows_pure laws kept held
  | cons member rest inductionHypothesis =>
    have added := allows_addMember laws
      (fun e found => evaluated e (List.mem_filterMap.mpr ⟨member, List.mem_cons_self, found⟩))
      (fun routine found =>
        callable routine (List.mem_filterMap.mpr ⟨member, List.mem_cons_self, found⟩))
      kept held
    apply added.bind laws
    intro later t moved laterHeld
    apply inductionHypothesis _ _ moved.states laterHeld
    · intro e initial
      obtain ⟨other, listed, found⟩ := List.mem_filterMap.mp initial
      exact evaluated e (List.mem_filterMap.mpr ⟨other, List.mem_cons_of_mem _ listed, found⟩)
    · intro routine method
      obtain ⟨other, listed, found⟩ := List.mem_filterMap.mp method
      exact callable routine
        (List.mem_filterMap.mpr ⟨other, List.mem_cons_of_mem _ listed, found⟩)

/-- What is inherited is a copy of the slots of a parent in hand, or no slot if the parent is
null. -/
theorem allows_inherited (kept : D.states s) {parent : Value} (held : D.Values s parent) :
    D.Allows D.scopes s (Eval.inherited σ parent s) := by
  cases parent with
  | null => exact allows_pure laws kept (laws.freshObject s)
  | object id => exact .done (.refl laws kept) (laws.slots kept held)
  | int | array => exact allows_fail laws kept _

/-- An object is made of slots in hand, and is then in hand itself. The slots are those of the
parent, and the members are added to them one after the other. -/
theorem keeps_object {parent : Expr} {members : List Member}
    (parents : D.Keeps D.Values (run (.expr parent)))
    (evaluated : ∀ e ∈ members.filterMap Member.init?, D.Keeps D.Values (run (.expr e)))
    (callable : ∀ routine ∈ members.filterMap Member.routine?, D.calls routine) :
    D.Keeps D.Values (Eval.object σ run parent members) := by
  intro s kept
  apply (parents s kept).bind laws
  intro value t moved valueHeld
  apply (allows_inherited laws moved.states valueHeld).bind laws
  intro inherited t moved held
  apply (allows_addMembers laws evaluated callable moved.states held).bind laws
  intro slots t moved slotsHeld
  obtain ⟨moves, objectHeld⟩ := laws.addObject moved.states slotsHeld
  exact .done moves objectHeld

/-- The receiver of an access is an object in hand, or the access fails. Values of other kinds are
refused. -/
theorem keeps_receiver {e : Expr} (name : String) (evaluated : D.Keeps D.Values (run (.expr e))) :
    D.Keeps D.objects (Eval.receiver run e name) := by
  intro s kept
  apply (evaluated s kept).bind laws
  intro value t moved valueHeld
  cases value with
  | object id => exact allows_pure laws moved.states valueHeld
  | int | null | array => exact allows_fail laws moved.states _

/-- The object is in hand while the new value is evaluated. So it still is when the slot is written,
in a state that may be a later one. -/
theorem keeps_setSlot {e value : Expr} (name : String)
    (receivers : D.Keeps D.Values (run (.expr e)))
    (evaluated : D.Keeps D.Values (run (.expr value))) :
    D.Keeps D.Values (Eval.setSlot run e name value) := by
  intro s kept
  apply (keeps_receiver laws name receivers s kept).bind laws
  intro id t moved object
  apply (allows_readSlot laws moved.states object name).bind laws
  intro _ u checked _
  apply (evaluated u checked.states).bind laws
  intro new v later newHeld
  have objectStill := laws.objects later.onward (laws.objects checked.onward object)
  have written : D.Allows Anything v (Action.change
      (fun state => { state with heap := state.heap.putSlot id name (.var new) }) v) :=
    .done (laws.putSlot name later.states objectStill newHeld) trivial
  apply written.bind laws
  intro _ w moved _
  exact allows_pure laws moved.states trivial

/-! ## Calls -/

/-- A call keeps to the discipline if its body keeps to one, which may be another, and if what the
body does is allowed once the caller's scope is back. -/
theorem allows_enter {D' : Discipline} (kept : D.states s) {scope : Scope} {body : Action Value}
    (bodies : D'.Keeps D'.Values body)
    (entered : D'.states { s with locals := some scope, depth := s.depth + 1 })
    (left : ∀ {t}, D'.Moves { s with locals := some scope, depth := s.depth + 1 } t →
      D.Moves s { t with locals := s.locals, depth := t.depth - 1 })
    (held : ∀ {t value}, D'.Values t value →
      D.Values { t with locals := s.locals, depth := t.depth - 1 } value) :
    D.Allows D.Values s (Eval.enter σ scope body s) := by
  by_cases within : s.depth < σ.maxCallDepth
  · have ends := bodies _ entered
    rw [Eval.enter_of_within within]
    generalize body _ = ended at ends ⊢
    cases ends with
    | done moves yielded => exact .done (left moves) (held yielded)
    | failed fault moves => exact .failed fault (left moves)
    | interrupted => exact .interrupted
  · rw [Eval.enter_of_deep (Nat.le_of_not_lt within)]
    exact .failed _ (.refl laws kept)

/-- The receiver is bound in the scope of a method, which stays in hand by that. A function has no
receiver, and its scope is left as it is. -/
theorem scopes_bindThis {this : Option ObjectId} (object : ∀ id, this = some id → D.objects s id)
    {scope : Scope} (held : D.scopes s scope) : D.scopes s (Eval.bindThis this scope) := by
  cases this with
  | none => exact held
  | some id =>
    have receiver : D.Values s (.object id) := object id rfl
    exact laws.bindValue "this" held receiver

section Calling

variable {args : List Expr} (evaluated : ∀ arg ∈ args, D.Keeps D.Values (run (.expr arg)))
  (called : ∀ {routine : Routine} {scope : Scope} {s : State}, D.calls routine →
    D.states s → D.scopes s scope →
    D.Allows D.Values s (Eval.enter σ scope (run (.stmt routine.body)) s))

include evaluated called

/-- A routine that may be called is called with arguments evaluated in the scope of the caller. The
body of the call keeps to the discipline by assumption, so only the scope that it is entered with
has to be in hand. -/
theorem allows_invoke {routine : Routine} (admitted : D.calls routine) (kept : D.states s)
    {this : Option ObjectId} (object : ∀ id, this = some id → D.objects s id) :
    D.Allows D.Values s (Eval.invoke σ run routine args this s) := by
  unfold Eval.invoke
  split
  · exact allows_fail laws kept _
  · have bound : D.Allows D.scopes s (Eval.bindArguments run (routine.params.zip args)
        (Table.empty σ.localCapacity) s) :=
      allows_bindArguments laws (fun pair listed => evaluated pair.2 (List.of_mem_zip listed).2)
        kept (laws.freshLocals s)
    apply bound.bind laws
    intro scope t moved held
    have objectStill (id : ObjectId) (present : this = some id) : D.objects t id :=
      laws.objects moved.onward (object id present)
    exact called admitted moved.states (scopes_bindThis laws objectStill held)

/-- A call of a function by its name: finding it changes nothing, and what is found may be
called. -/
theorem keeps_call (name : String) : D.Keeps D.Values (Eval.call σ run name args) := by
  intro s kept
  rw [Eval.call_eq]
  apply (keeps_findFunction laws name s kept).bind laws
  intro routine t moved admitted
  exact allows_invoke laws evaluated called admitted moved.states fun _ present => by cases present

/-- A call of a method of an object in hand, with that object as the receiver. That the method may
be called follows from where it was found. -/
theorem allows_callMethod (kept : D.states s) {id : ObjectId} (object : D.objects s id)
    (name : String) : D.Allows D.Values s (Eval.callMethod σ run id name args s) := by
  rw [Eval.callMethod_eq]
  apply (allows_findMethod laws kept object name).bind laws
  intro routine t moved admitted
  apply allows_invoke laws evaluated called admitted moved.states
  rintro _ ⟨⟩
  exact laws.objects moved.onward object

omit called in
/-- An operator of an integer needs nothing in hand and yields an integer or null. Only its operand
is evaluated. -/
theorem keeps_applyInt (x : Int64) (name : String) :
    D.Keeps D.Values (Eval.applyInt run x name args) := by
  unfold Eval.applyInt
  split
  · exact fun s kept => allows_fail laws kept _
  · split
    · next arg =>
      intro s kept
      apply (evaluated arg List.mem_cons_self s kept).bind laws
      intro value t moved _
      have checked : D.Allows Anything t (Action.ofExcept
          (value.expectInt ("operand of " ++ name)) t) :=
        allows_ofExcept laws moved.states fun _ _ => trivial
      apply checked.bind laws
      intro y t moved _
      exact allows_ofExcept laws moved.states fun _ answered =>
        values_of_plain (IntOp.corresponds_of_apply answered)
    · exact fun s kept => allows_fail laws kept _

omit called in
/-- An operator of an array in hand, with integers as its operands. The array is in hand while these
are evaluated. -/
theorem allows_applyArray (kept : D.states s) {id : ArrayId} (array : D.arrays s id)
    (name : String) : D.Allows D.Values s (Eval.applyArray run id name args s) := by
  unfold Eval.applyArray
  cases ArrayOp.ofName? name with
  | none => exact allows_fail laws kept _
  | some op =>
    dsimp only
    split
    · exact allows_fail laws kept _
    · apply (keeps_integers laws _ 0 evaluated s kept).bind laws
      intro operands t moved _
      exact allows_applyElements laws moved.states (laws.arrays moved.onward array) op operands

/-- A call on a value: its kind decides whether an operator or a method is meant, and in each case
what the call needs is the value in hand. -/
theorem keeps_callSlot {e : Expr} (name : String) (receivers : D.Keeps D.Values (run (.expr e))) :
    D.Keeps D.Values (Eval.callSlot σ run e name args) := by
  intro s kept
  apply (receivers s kept).bind laws
  intro value t moved held
  cases value with
  | int x => exact keeps_applyInt laws evaluated x name t moved.states
  | array id => exact allows_applyArray laws evaluated moved.states held name
  | object id => exact allows_callMethod laws evaluated called moved.states held name
  | null => exact allows_fail laws moved.states _

end Calling

/-! ## Control -/

/-- A condition evaluates the branch that its test chooses, and nothing of the test stays in
hand. -/
theorem keeps_branch {pred : Expr} {conseq alt : Stmt}
    (tested : D.Keeps D.Values (run (.expr pred))) (taken : D.Keeps D.Values (run (.stmt conseq)))
    (otherwise : D.Keeps D.Values (run (.stmt alt))) :
    D.Keeps D.Values (Eval.branch run pred conseq alt) := by
  intro s kept
  apply (tested s kept).bind laws
  intro value t moved _
  split
  · exact taken t moved.states
  · exact otherwise t moved.states

/-- A loop keeps to the discipline turn by turn. The induction is on the bound, and a loop that uses
it up is interrupted, which leaves no state. -/
theorem keeps_turns {pred : Expr} {body : Stmt} (tested : D.Keeps D.Values (run (.expr pred)))
    (turned : D.Keeps D.Values (run (.stmt body))) (bound : Nat) :
    D.Keeps D.Values (Eval.turns run pred body bound) := by
  induction bound with
  | zero => exact fun _ _ => .interrupted
  | succ bound inductionHypothesis =>
    intro s kept
    rw [Eval.turns_succ]
    apply (tested s kept).bind laws
    intro value t moved _
    split
    · apply (turned t moved.states).bind laws
      intro _ u moved _
      exact inductionHypothesis u moved.states
    · exact allows_pure laws moved.states trivial

/-! ## Code -/

/-- Code keeps to a discipline if its parts and the calls of routines do, and if it declares nothing
but what may be declared. -/
theorem keeps_step {bound : Nat} {code : Code}
    (parts : ∀ part ∈ code.parts, D.Keeps D.Values (run part))
    (declared : ∀ name, code.declaredVariable? = some name → D.declares name)
    (defined : ∀ routine, code.declaredFunction? = some routine → D.defines routine)
    (callable : ∀ routine ∈ code.routines, D.calls routine)
    (called : ∀ {routine : Routine} {scope : Scope} {s : State}, D.calls routine →
      D.states s → D.scopes s scope →
      D.Allows D.Values s (Eval.enter σ scope (run (.stmt routine.body)) s)) :
    D.Keeps D.Values (Eval.step σ bound run code) := by
  have arguments {args : List Expr} (listed : ∀ arg ∈ args, .expr arg ∈ code.parts) (arg : Expr)
      (member : arg ∈ args) : D.Keeps D.Values (run (.expr arg)) :=
    parts _ (listed arg member)
  cases code with
  | expr e =>
    cases e with
    | int | null => exact fun s kept => allows_pure laws kept trivial
    | printf format args =>
      exact keeps_printf laws format (arguments fun _ => List.mem_map_of_mem)
    | array length init =>
      exact keeps_array laws (parts _ (by simp [Code.parts])) (parts _ (by simp [Code.parts]))
    | object parent members =>
      apply keeps_object laws (parts _ List.mem_cons_self)
      · exact arguments fun _ initial => List.mem_cons_of_mem _ (List.mem_map_of_mem initial)
      · exact callable
    | slot e name =>
      intro s kept
      apply (keeps_receiver laws name (parts _ List.mem_cons_self) s kept).bind laws
      intro id t moved object
      exact allows_readSlot laws moved.states object name
    | setSlot e name value =>
      exact keeps_setSlot laws name (parts _ (by simp [Code.parts]))
        (parts _ (by simp [Code.parts]))
    | callSlot e name args =>
      exact keeps_callSlot laws
        (arguments fun _ member => List.mem_cons_of_mem _ (List.mem_map_of_mem member)) called name
        (parts _ List.mem_cons_self)
    | call name args =>
      exact keeps_call laws (arguments fun _ => List.mem_map_of_mem) called name
    | set name e =>
      intro s kept
      apply (parts _ List.mem_cons_self s kept).bind laws
      intro value t moved held
      exact allows_assignValue laws moved.states held name
    | cond pred conseq alt =>
      exact keeps_branch laws (parts _ (by simp [Code.parts])) (parts _ (by simp [Code.parts]))
        (parts _ (by simp [Code.parts]))
    | loop pred body =>
      exact keeps_turns laws (parts _ (by simp [Code.parts])) (parts _ (by simp [Code.parts])) bound
    | ref name => exact keeps_readVariable laws name
  | stmt stmt =>
    intro s kept
    cases stmt with
    | var name init =>
      apply (parts _ List.mem_cons_self s kept).bind laws
      intro value t moved held
      have written : D.Allows Anything t (Action.change (·.declare name value) t) :=
        .done (laws.declare (declared name rfl) moved.states held) trivial
      apply written.bind laws
      intro _ u moved _
      exact allows_pure laws moved.states trivial
    | fn routine =>
      have written : D.Allows Anything s
          (Action.change (·.bindGlobal routine.name (.routine routine)) s) :=
        .done (laws.bindGlobal (defined routine rfl) kept) trivial
      apply written.bind laws
      intro _ t moved _
      exact allows_pure laws moved.states trivial
    | seq first second =>
      apply (parts _ List.mem_cons_self s kept).bind laws
      intro _ t moved _
      exact parts (.stmt second) (by simp [Code.parts]) t moved.states
    | expr e => exact parts _ List.mem_cons_self s kept

end Upheld

end Discipline

end SlotLang
