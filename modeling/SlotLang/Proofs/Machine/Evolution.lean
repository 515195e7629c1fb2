import SlotLang.Proofs.Machine.Comparison
import SlotLang.Proofs.Machine.Outcome
import SlotLang.Proofs.Machine.Shape

/-!
# What a run can do to the state

All that evaluation does to a state is one of a few changes, or a call, in which a body does such
changes one level deeper and in a local scope of its own. States before and after any evaluation are
related in this way, whether it ends in a value or in a fault. What these changes keep is therefore
kept by every run; the shape of the heap is shown here.

The order of the two matters. That a slot still holds a value when it is written follows from the
shape being kept by the evaluation in between.
-/

namespace SlotLang

/-- What one state can become of another while something is evaluated. Each step is an operation on
the state, or a whole call with the scope of the caller put back. -/
inductive State.Evolves (σ : Settings) : State → State → Prop where
  /-- Nothing happens. -/
  | refl (s : State) : Evolves σ s s
  /-- One thing after the other. -/
  | trans {s t u : State} (first : Evolves σ s t) (second : Evolves σ t u) : Evolves σ s u
  /-- A text is handed to the sink. -/
  | print (s : State) (text : String) : Evolves σ s { s with sink := (s.sink.write text).2 }
  /-- An array is made. -/
  | addArray (s : State) (elements : Elements) :
      Evolves σ s { s with heap := (s.heap.addArray elements).2 }
  /-- An operator is applied to an array. -/
  | updateArray (s : State) (id : ArrayId) (op : ArrayOp) (operands : List Int64) :
      Evolves σ s { s with heap := s.heap.updateArray id (op.update operands) }
  /-- An object is made. -/
  | addObject (s : State) (slots : Scope) :
      Evolves σ s { s with heap := (s.heap.addObject slots).2 }
  /-- A slot that holds a value is written. -/
  | putSlot {s : State} {id : ObjectId} {name : String} {old : Value}
      (held : (s.heap.slots id).get? name = some (.var old)) (value : Value) :
      Evolves σ s { s with heap := s.heap.putSlot id name (.var value) }
  /-- A variable is declared. -/
  | declare (s : State) (name : String) (value : Value) : Evolves σ s (s.declare name value)
  /-- A function is declared. -/
  | bindGlobal (s : State) (routine : Routine) :
      Evolves σ s (s.bindGlobal routine.name (.routine routine))
  /-- A variable is assigned to. -/
  | assign {s t : State} {name : String} {value : Value} (assigned : s.assign name value = .ok t) :
      Evolves σ s t
  /-- A body runs as a call. -/
  | call {s t : State} {scope : Scope} (within : s.depth < σ.maxCallDepth)
      (body : Evolves σ { s with locals := some scope, depth := s.depth + 1 } t) :
      Evolves σ s { t with locals := s.locals, depth := t.depth - 1 }

/-- Assigning to a variable binds its name in the local scope or in the global scope. It binds it to
a value, never to a routine. -/
theorem State.assign_cases {s t : State} {name : String} {value : Value}
    (assigned : s.assign name value = .ok t) :
    (∃ scope, s.locals = some scope ∧
      t = { s with locals := some (scope.insert name (.var value)) }) ∨
    t = s.bindGlobal name (.var value) := by
  unfold State.assign at assigned
  split at assigned
  · next scope found =>
    cases assigned
    exact .inl ⟨scope, (Option.filter_eq_some_iff.mp found).1, rfl⟩
  · split at assigned
    · cases assigned
      exact .inr rfl
    · cases assigned

/-- Declaring a variable binds its name in the local scope or in the global scope. -/
theorem State.declare_cases (s : State) (name : String) (value : Value) :
    (∃ scope, s.locals = some scope ∧
      s.declare name value = { s with locals := some (scope.insert name (.var value)) }) ∨
    s.declare name value = s.bindGlobal name (.var value) := by
  unfold State.declare
  split
  · next scope found => exact .inl ⟨scope, found, rfl⟩
  · exact .inr rfl

/-- The shape of the heap is kept by every change, and so by whole runs. By induction on how the one
state became the other. -/
theorem State.Evolves.keepsShape {σ : Settings} {s t : State} (evolves : s.Evolves σ t) :
    s.heap.KeepsShape t.heap := by
  induction evolves with
  | refl s => exact .refl s.heap
  | trans _ _ first second => exact first.trans second
  | print s text => exact .refl s.heap
  | addArray s elements => exact Heap.keepsShape_addArray s.heap elements
  | updateArray s id op operands => exact Heap.keepsShape_updateArray s.heap id op operands
  | addObject s slots => exact Heap.keepsShape_addObject s.heap slots
  | putSlot held value => exact Heap.keepsShape_putSlot held value
  | declare s name value =>
    obtain ⟨scope, _, same⟩ | same := s.declare_cases name value
    · rw [same]
      exact .refl s.heap
    · rw [same]
      exact .refl s.heap
  | bindGlobal s routine => exact .refl s.heap
  | @assign s t name value assigned =>
    obtain ⟨scope, _, rfl⟩ | rfl := State.assign_cases assigned
    · exact .refl s.heap
    · exact .refl s.heap
  | call _ _ body => exact body

/-- Only printing changes the sink, so what every write keeps is kept by whole runs. -/
theorem State.Evolves.sink_keeps {kept : Sink → Prop}
    (writes : ∀ sink text, kept sink → kept (sink.write text).2) {σ : Settings} {s t : State}
    (evolves : s.Evolves σ t) (before : kept s.sink) : kept t.sink := by
  induction evolves with
  | refl | addArray | updateArray | addObject | putSlot | bindGlobal => exact before
  | trans _ _ first second => exact second (first before)
  | print s text => exact writes s.sink text before
  | declare s name value =>
    obtain ⟨scope, _, same⟩ | same := s.declare_cases name value
    · rw [same]
      exact before
    · rw [same]
      exact before
  | assign assigned =>
    obtain ⟨scope, _, rfl⟩ | rfl := State.assign_cases assigned
    · exact before
    · exact before
  | call _ _ body => exact body before

/-! ## Actions -/

namespace Evolution

variable {σ : Settings} {α β : Type}

/-- However an outcome ends, its state has evolved from `s`. This holds of failures as well as of
values. -/
def From (σ : Settings) (s : State) (outcome : Outcome α) : Prop :=
  ∀ t, outcome.state? = some t → s.Evolves σ t

/-- An action only does what evaluation can do to a state, from whatever state it starts. -/
def Evolving (σ : Settings) (action : Action α) : Prop :=
  ∀ s, From σ s (action s)

/-- An outcome with a value comes from a state that evolves into the one left behind. -/
theorem From.done {s t : State} (evolves : s.Evolves σ t) (value : α) :
    From σ s (.done value t) := by
  rintro _ ⟨⟩
  exact evolves

/-- So does a failure: what was done before it is not undone. -/
theorem From.failed {s t : State} (evolves : s.Evolves σ t) (fault : Fault) :
    From σ s (.failed fault t : Outcome α) := by
  rintro _ ⟨⟩
  exact evolves

/-- An interrupted run leaves no state, so nothing is said of one. -/
theorem From.interrupted (s : State) : From σ s (.interrupted : Outcome α) := by
  rintro _ ⟨⟩

/-- An outcome of an evolved state. -/
theorem From.after {s t : State} (evolves : s.Evolves σ t) {outcome : Outcome α}
    (later : From σ t outcome) : From σ s outcome :=
  fun u reached => evolves.trans (later u reached)

/-- One action after another, where what comes second may rely on how the first ended. If the first
fails, its state is the last. -/
theorem From.bind {s : State} {first : Action α} {next : α → Action β} (start : From σ s (first s))
    (later : ∀ value t, first s = .done value t → From σ t (next value t)) :
    From σ s ((first >>= next) s) := by
  show From σ s (Action.bind first next s)
  unfold Action.bind
  cases ended : first s with
  | done value t =>
    exact (later value t ended).after (start t (by rw [ended]; rfl))
  | failed fault t => exact .failed (start t (by rw [ended]; rfl)) fault
  | interrupted => exact .interrupted s

/-- To yield a value is to do nothing. -/
theorem evolving_pure (value : α) : Evolving σ (pure value) :=
  fun s => .done (.refl s) value

/-- To fail is to do nothing either. -/
theorem evolving_fail (fault : Fault) : Evolving σ (Action.fail fault : Action α) :=
  fun s => .failed (.refl s) fault

/-- Of two actions the second begins in what the first leaves behind, and it is not begun after a
failure. -/
theorem evolving_bind {first : Action α} {next : α → Action β} (start : Evolving σ first)
    (later : ∀ value, Evolving σ (next value)) : Evolving σ (first >>= next) :=
  fun s => (start s).bind fun value t _ => later value t

/-- An answer that was found without the state does nothing to it. -/
theorem evolving_ofExcept (answer : Except Fault α) : Evolving σ (Action.ofExcept answer) := by
  cases answer with
  | ok value => exact evolving_pure value
  | error fault => exact evolving_fail fault

/-- A change of the state is an evolution if it is one from every state. -/
theorem evolving_change {change : State → State} (evolves : ∀ s : State, s.Evolves σ (change s)) :
    Evolving σ (Action.change change) :=
  fun s => .done (evolves s) ()

/-! ## Operations on the state -/

/-- Printing hands a text to the sink, and the sink as it is afterwards stays, also if it refuses
the text. -/
theorem evolving_print (text : String) : Evolving σ (Eval.print text) := by
  intro s
  have written := State.Evolves.print (σ := σ) s text
  unfold Eval.print
  generalize s.sink.write text = result at written ⊢
  obtain ⟨refused, sink⟩ := result
  cases refused with
  | none => exact .done written ()
  | some fault => exact .failed written fault

/-- An operator of an array is one change of that array; where it is refused the array is as
before. -/
theorem evolving_applyElements (id : ArrayId) (op : ArrayOp) (operands : List Int64) :
    Evolving σ (Eval.applyElements id op operands) := by
  intro s
  unfold Eval.applyElements
  cases op.value (s.heap.elements id) operands with
  | ok value => exact .done (.updateArray s id op operands) value
  | error fault => exact .failed (.refl s) fault

/-- Reading a slot does nothing, whether there is one or not. -/
theorem evolving_readSlot (id : ObjectId) (name : String) : Evolving σ (Eval.readSlot id name) :=
  fun s => evolving_ofExcept _ s

/-- Reading a slot succeeds only if it holds a value, and changes nothing. A slot that is a method
is refused. -/
theorem readSlot_done {id : ObjectId} {name : String} {s t : State} {value : Value}
    (read : Eval.readSlot id name s = .done value t) :
    t = s ∧ (s.heap.slots id).get? name = some (.var value) := by
  unfold Eval.readSlot Heap.readSlot at read
  generalize (s.heap.slots id).get? name = found at read ⊢
  cases found with
  | none => cases read
  | some binding =>
    cases binding with
    | var held =>
      cases read
      exact ⟨rfl, rfl⟩
    | routine routine => cases read

/-- A slot that was read still holds a value, whatever happened since: the shape of its object is
kept. -/
theorem still_held {id : ObjectId} {name : String} {s t u : State} {old : Value}
    (checked : Eval.readSlot id name s = .done old t) (evolved : t.Evolves σ u) :
    ∃ now, (u.heap.slots id).get? name = some (.var now) := by
  obtain ⟨rfl, held⟩ := readSlot_done checked
  exact evolved.keepsShape.holds_value held

/-- The slot is checked before the new value is evaluated and written after, and it holds a value
then too. -/
theorem held_until_written {run : Evaluator} (runs : ∀ code, Evolving σ (run code))
    {id : ObjectId} {name : String} {value : Expr} {s t u : State} {old new : Value}
    (checked : Eval.readSlot id name s = .done old t)
    (evaluated : run (.expr value) t = .done new u) :
    ∃ now, (u.heap.slots id).get? name = some (.var now) :=
  still_held checked (runs (.expr value) t u (by rw [evaluated]; rfl))

/-- A slot is written in three steps: it is read, the new value is evaluated, and the value is
written. The slot held a value at the first step and still holds one at the last, because the
evaluation in between keeps the shape of the heap. -/
theorem evolving_replaceSlot (id : ObjectId) (name : String) {evaluate : Action Value}
    (evaluates : Evolving σ evaluate) : Evolving σ (Eval.replaceSlot id name evaluate) := by
  intro s
  apply (evolving_readSlot id name s).bind
  intro old t checked
  apply (evaluates t).bind
  intro new u evaluated
  obtain ⟨now, held⟩ := still_held checked (evaluates t u (by rw [evaluated]; rfl))
  exact .done (.putSlot held new) _

/-- An assignment is one change, or it is refused and does nothing. -/
theorem evolving_assignValue (name : String) (value : Value) :
    Evolving σ (Eval.assignValue name value) := by
  intro s
  unfold Eval.assignValue
  cases assigned : s.assign name value with
  | ok t => exact .done (.assign assigned) _
  | error fault => exact .failed (.refl s) fault

/-- A call is one change that has the changes of its body in it; a call that is refused for its
depth does nothing. -/
theorem evolving_enter (scope : Scope) {body : Action Value} (bodies : Evolving σ body) :
    Evolving σ (Eval.enter σ scope body) := by
  intro s
  by_cases within : s.depth < σ.maxCallDepth
  · rw [Eval.enter_of_within within]
    exact Outcome.forall_state?_mapState fun t ended => .call (by omega) (bodies _ t ended)
  · rw [Eval.enter_of_deep (Nat.le_of_not_lt within)]
    exact .failed (.refl s) _

/-! ## Evaluation -/

/-- Every operation on the state that constructs are put together from is an evolution. -/
theorem evolving_operation {names : String → Prop} {action : Action α}
    (operation : Comparison.Operation names action) : Evolving σ action := by
  cases operation with
  | print text => exact evolving_print text
  | makeArray elements => exact fun s => .done (.addArray s elements) _
  | applyElements id op operands => exact evolving_applyElements id op operands
  | slots id => exact fun s => .done (.refl s) _
  | makeObject slots => exact fun s => .done (.addObject s slots) _
  | readSlot id name => exact evolving_readSlot id name
  | findMethod id name => exact fun s => evolving_ofExcept _ s
  | findFunction name => exact fun s => evolving_ofExcept _ s
  | readVariable => exact fun s => evolving_ofExcept _ s
  | assignValue _ value => exact evolving_assignValue _ value
  | declare _ value => exact evolving_change fun s => .declare s _ value
  | bindGlobal routine => exact evolving_change fun s => .bindGlobal s routine

/-- A run beside itself, of which nothing is asked but that the state evolves. -/
def comparison (σ : Settings) : Comparison :=
  .plain (fun _ => True) fun _ _ action => Evolving σ action

/-- So the comparison of a run with itself, which says of every action that it evolves, is a
congruence. What is shown of congruences then gives the result for all code. -/
theorem congruence (σ : Settings) : (comparison σ).Congruence σ σ := by
  apply Comparison.plain_congruence rfl rfl
  case composes =>
    apply Comparison.plain_composes (fun _ => evolving_pure _) evolving_fail
    intro _ _ _ _ _ _ _ _ _ _ total start later
    apply evolving_bind start
    intro value'
    obtain ⟨value, same⟩ := total value'
    exact later value value' same
  case operation => exact fun operation _ => evolving_operation operation
  case replaceSlot => exact fun id name _ _ evaluates => evolving_replaceSlot id name evaluates

/-- A member is added to slots that no state holds yet, so only the evaluation of its initial value
does something. -/
theorem evolving_addMember {run : Evaluator} (runs : ∀ code, Evolving σ (run code))
    (slots : Scope) (member : Member) : Evolving σ (Eval.addMember run slots member) := by
  show (comparison σ).actions (comparison σ).scopes (Eval.addMember run slots member)
    (Eval.addMember run slots member)
  apply Comparison.actions_addMember (congruence σ) _ rfl
  cases member with
  | var name init => exact .var name (runs _)
  | method routine => exact .method rfl

/-- Whatever is evaluated, the state evolves. It is enough that the operations do and that a call
puts back what it changed. -/
theorem evolving_eval (σ : Settings) (bound : Nat) (code : Code) :
    Evolving σ (eval σ bound code) := by
  show (comparison σ).actions (comparison σ).Values (eval σ bound code) (eval σ bound code)
  apply Comparison.actions_eval (congruence σ) 0
  case named => exact fun _ => trivial
  case sameRoutines => exact .rfl
  case entered => exact fun _ => evolving_enter _
  case stopped =>
    intro action interrupt
    rw [interrupt rfl]
    exact .interrupted

end Evolution

/-! ## Entry points -/

/-- What a host can have evaluated: code of either kind, a member that is added to slots, or a whole
program. -/
inductive Entry where
  /-- An expression or a statement, for its value. -/
  | code (code : Code)
  /-- A statement, for its effects. -/
  | effect (s : Stmt)
  /-- A member, to be added to the slots of an object under construction. -/
  | member (slots : Scope) (member : Member)
  /-- A program, over the state's global scope. -/
  | runIn (program : Stmt)
  /-- A program, over a fresh global scope. -/
  | run (program : Stmt)

/-- The state after an evaluation that a host asked for, if the bound is large enough for it.
Whether it failed does not matter. -/
def Entry.after? (σ : Settings) (bound : Nat) (s : State) : Entry → Option State
  | .code c => (eval σ bound c s).state?
  | .effect stmt =>
    ((do let _ ← eval σ bound (.stmt stmt); pure () : Action Unit) s).state?
  | .member slots m => (Eval.addMember (eval σ bound) slots m s).state?
  | .runIn program => (SlotLang.runIn σ bound program s).state?
  | .run program => (SlotLang.run σ bound program s).state?

/-- The state that evaluation starts from: a program starts at the top level, in its globals. -/
def Entry.before (σ : Settings) (s : State) : Entry → State
  | .code _ | .effect _ | .member _ _ => s
  | .runIn _ => { s with locals := none, depth := 0 }
  | .run _ => { s with globals := Table.empty σ.globalCapacity, locals := none, depth := 0 }

/-- From whichever entry point, the state evolves. So what holds of every evolution holds of all
that a host can do. -/
theorem Entry.evolves {σ : Settings} {bound : Nat} {s t : State} {entry : Entry}
    (reached : entry.after? σ bound s = some t) : (entry.before σ s).Evolves σ t := by
  have runs := Evolution.evolving_eval σ bound
  cases entry with
  | code c => exact runs c s t reached
  | effect stmt =>
    exact Evolution.evolving_bind (runs (.stmt stmt)) (fun _ => Evolution.evolving_pure ()) s t
      reached
  | member slots m => exact Evolution.evolving_addMember runs slots m s t reached
  | runIn program => exact runs (.stmt program) _ t reached
  | run program => exact runs (.stmt program) _ t reached

/-- Objects and arrays have a fixed shape. Whatever is evaluated and however it ends, the objects
that existed have the slots they had, with values where there were values and the same methods where
there were methods, and the arrays that existed have the lengths they had. When a slot is written,
after its object was found, the slot was checked and the new value was evaluated, it still exists
and holds a value. -/
theorem shape_fixed (σ : Settings) (bound : Nat) (s : State) :
    (∀ (entry : Entry) (t : State), entry.after? σ bound s = some t →
      s.heap.KeepsShape t.heap) ∧
    ∀ (receiver value : Expr) (name : String) (id : ObjectId) (old new : Value) (t u v : State),
      Eval.receiver (eval σ bound) receiver name s = .done id t →
      Eval.readSlot id name t = .done old u →
      eval σ bound (.expr value) u = .done new v →
      ∃ now, (v.heap.slots id).get? name = some (.var now) := by
  constructor
  · intro entry t reached
    have sameHeap : (entry.before σ s).heap = s.heap := by
      cases entry <;> rfl
    exact sameHeap ▸ (Entry.evolves reached).keepsShape
  · intro receiver value name id old new t u v _ checked evaluated
    exact Evolution.held_until_written (Evolution.evolving_eval σ bound) checked evaluated

/-- A slot is written with what comes of writing the same slot. -/
theorem shape_fixed_nested_write :
    let slots : Scope := (Table.empty 1).insert "x" (.var (.int 1))
    let s : State :=
      { State.initial .default .unlimited with
        globals := (Table.empty 1).insert "o" (.var (.object ⟨0⟩))
        heap := ⟨#[], #[slots]⟩ }
    let v : State := { s with heap := s.heap.putSlot ⟨0⟩ "x" (.var (.int 2)) }
    let inner : Expr := .setSlot (.ref "o") "x" (.int 2)
    let outer : Entry := .code (.expr (.setSlot (.ref "o") "x" inner))
    (∃ t : State, outer.after? .default 4 s = some t ∧ s.heap.KeepsShape t.heap) ∧
      Eval.receiver (eval .default 3) (.ref "o") "x" s = .done ⟨0⟩ s ∧
      Eval.readSlot ⟨0⟩ "x" s = .done (.int 1) s ∧
      eval .default 3 (.expr inner) s = .done .null v ∧
      ∃ now, (v.heap.slots ⟨0⟩).get? "x" = some (.var now) := by
  intro slots s v inner outer
  obtain ⟨t, reached⟩ : ∃ t, outer.after? .default 4 s = some t :=
    Option.isSome_iff_exists.mp (by decide +kernel)
  have found : ∀ bound,
      Eval.receiver (eval .default (bound + 1)) (.ref "o") "x" s = .done ⟨0⟩ s := by
    intro bound
    simp [Eval.receiver, eval_succ, Eval.step, Eval.expression, State.readVariable, State.lookup, s,
      State.initial, Action.ofExcept, bind, pure, Action.bind, Action.pure]
  have checked : Eval.readSlot ⟨0⟩ "x" s = .done (.int 1) s := by
    simp [Eval.readSlot, Heap.readSlot, Heap.slots, s, slots, Action.ofExcept, Action.pure]
  have evaluated : eval .default 3 (.expr inner) s = .done .null v := by
    rw [eval_succ]
    simp [Eval.step, Eval.expression, inner, Eval.setSlot, bind, Action.bind, found 1, checked,
      eval_succ .default 1, pure, Action.pure, Action.change, v]
  exact ⟨⟨t, reached, (shape_fixed .default 4 s).1 outer t reached⟩, found 2, checked, evaluated,
    (shape_fixed .default 3 s).2 (.ref "o") inner "x" ⟨0⟩ (.int 1) .null s s v (found 2) checked
      evaluated⟩

end SlotLang
