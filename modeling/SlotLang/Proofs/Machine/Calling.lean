import SlotLang.Proofs.Machine.CallDepth
import SlotLang.Proofs.Machine.Constructs
import SlotLang.Proofs.Table.Lookup

/-!
# The protocol of a call

A call fixes what it calls before it evaluates an argument, and compares the numbers of arguments
and parameters before that too. It then evaluates the arguments in the scopes of the caller, looks
at the depth, and runs the body in a scope that holds the arguments and the receiver and nothing
else. What the body's end leaves is put back into the scope and to the depth of the caller.
Functions and methods differ in where the routine is found and in whether there is a receiver.
-/

namespace SlotLang

/-- The outcome of a body as that of its call: the caller has its own scope and depth again, and all
else is as the body left it. -/
def Outcome.returnTo {α : Type} (caller : State) (outcome : Outcome α) : Outcome α :=
  outcome.mapState fun state => { state with locals := caller.locals, depth := caller.depth }

/-- The scope in which a routine's body starts: the arguments under the names of the parameters, in
a scope of its own, and then the receiver of a method. -/
def calleeScope (σ : Settings) (params : List String) (values : List Value)
    (this : Option ObjectId) : Scope :=
  Eval.bindThis this
    ((Table.empty σ.localCapacity).insertAll (params.zip (values.map Binding.var)))

/-- A method's receiver is bound, over a parameter of its name if there is one. -/
theorem get?_calleeScope_this (σ : Settings) (params : List String) (values : List Value)
    (id : ObjectId) :
    (calleeScope σ params values (some id)).get? "this" = some (.var (.object id)) := by
  simp [calleeScope, Eval.bindThis]

/-- Any other name is bound to the argument at the last place where a parameter has it, and to
nothing if no parameter has it. -/
theorem get?_calleeScope (σ : Settings) (params : List String) (values : List Value)
    {this : Option ObjectId} {name : String} (other : name ≠ "this" ∨ this = none) :
    (calleeScope σ params values this).get? name =
      Table.lastEntry (params.zip (values.map Binding.var)) name := by
  cases this with
  | none => simp [calleeScope, Eval.bindThis, Table.get?_insertAll]
  | some id =>
    have different : name ≠ "this" := by simpa using other
    simp [calleeScope, Eval.bindThis, Table.get?_insertAll, different]

/-- Code that comes to call a routine: the routine, the arguments to evaluate, the receiver if it is
called as a method, and the state in which all this is settled. -/
inductive Calls (σ : Settings) :
    Code → State → Routine → List Expr → Option ObjectId → State → Prop where
  /-- A function is found at once. -/
  | function {name : String} {args : List Expr} {routine : Routine} {s : State}
      (bound : s.globals.get? name = some (.routine routine)) :
      Calls σ (.expr (.call name args)) s routine args none s
  /-- A method is found when its object is there. -/
  | method {name : String} {args : List Expr} {routine : Routine} {e : Expr} {id : ObjectId}
      {s t : State} (evaluated : Ends σ (.expr e) s (.done (.object id) t))
      (bound : (t.heap.slots id).get? name = some (.routine routine)) :
      Calls σ (.expr (.callSlot e name args)) s routine args (some id) t

/-- How a call ends, by how the evaluation of its arguments ended. -/
inductive CallEnds (σ : Settings) (routine : Routine) (this : Option ObjectId) :
    Outcome (List Value) → Outcome Value → Prop where
  /-- An argument fails. -/
  | argument (fault : Fault) (u : State) :
      CallEnds σ routine this (.failed fault u) (.failed fault u)
  /-- There are as many active calls as there may be. -/
  | overflow (values : List Value) {u : State} (deep : σ.maxCallDepth ≤ u.depth) :
      CallEnds σ routine this (.done values u) (.failed (.stackOverflow σ.maxCallDepth) u)
  /-- The body runs one level deeper and in its own scope. -/
  | body {values : List Value} {u : State} {outcome : Outcome Value}
      (within : u.depth < σ.maxCallDepth)
      (ended : Ends σ (.stmt routine.body)
        { u with
          locals := some (calleeScope σ routine.params values this)
          depth := u.depth + 1 } outcome) :
      CallEnds σ routine this (.done values u) (outcome.returnTo u)

namespace Eval

/-- Binding arguments is evaluating them in order and then binding the parameters. The two could not
be told apart, since no argument sees the scope of the callee. -/
theorem bindArguments_eq (run : Evaluator) {params : List String} {args : List Expr}
    (sameLength : args.length = params.length) (scope : Scope) :
    bindArguments run (params.zip args) scope =
      Construct.each .ok args run >>= fun values =>
        pure (scope.insertAll (params.zip (values.map Binding.var))) := by
  induction args generalizing params scope with
  | nil =>
    rw [List.zip_nil_right]
    obtain rfl := List.eq_nil_of_length_eq_zero sameLength.symm
    rfl
  | cons arg rest inductionHypothesis =>
    cases params with
    | nil => cases sameLength
    | cons param params =>
      have sameRest : rest.length = params.length := Nat.succ.inj sameLength
      rw [List.zip_cons_cons, bindArguments, Construct.each_ok_cons]
      simp only [inductionHypothesis sameRest, bind_assoc, pure_bind]
      rfl

/-- A body leaves the depth at which it started, so counting its call off restores the caller's. The
subtraction never stops at zero. -/
theorem enter_eval {σ : Settings} {u : State} (within : u.depth < σ.maxCallDepth) (scope : Scope)
    (bound : Nat) (body : Stmt) :
    enter σ scope (eval σ bound (.stmt body)) u =
      (eval σ bound (.stmt body)
        { u with locals := some scope, depth := u.depth + 1 }).returnTo u := by
  rw [enter_of_within within]
  apply Outcome.mapState_congr
  intro t ended
  have sameDepth : t.depth = u.depth + 1 := (Evolution.evolving_eval σ bound _ _ t ended).depth_eq
  simp [sameDepth]

end Eval

namespace Construct

variable {σ : Settings} {routine : Routine} {args : List Expr} {this : Option ObjectId}
  {s t u : State} {outcome : Outcome Value}

/-- A call is steady, as its body is. -/
theorem steady_enter (σ : Settings) (scope : Scope) (body : Stmt) :
    Steady σ fun run => Eval.enter σ scope (run (.stmt body)) := by
  intro bound more u ended
  beta_reduce at ended ⊢
  -- The depth is looked at before the body, so a call that is too deep needs no bound at all.
  by_cases within : u.depth < σ.maxCallDepth
  · rw [Eval.enter_eval within, Outcome.returnTo, Outcome.mapState_ne_interrupted] at ended
    rw [Eval.enter_eval within, Eval.enter_eval within,
      eval_eq_of_le (Nat.le_add_right bound more) ended]
  · rw [Eval.enter_of_deep (Nat.le_of_not_lt within), Eval.enter_of_deep (Nat.le_of_not_lt within)]

/-- Entering a body ends at the depth limit or as the body does. The limit is looked at before
anything of the body is evaluated. -/
theorem settles_enter {values : List Value} :
    Settles σ (fun run =>
        Eval.enter σ (calleeScope σ routine.params values this) (run (.stmt routine.body)))
        u outcome ↔
      CallEnds σ routine this (.done values u) outcome := by
  constructor
  · rintro ⟨uninterrupted, bound, rfl⟩
    beta_reduce at uninterrupted ⊢
    by_cases within : u.depth < σ.maxCallDepth
    · rw [Eval.enter_eval within] at uninterrupted ⊢
      exact .body within ⟨Outcome.mapState_ne_interrupted.mp uninterrupted, bound, rfl⟩
    · rw [Eval.enter_of_deep (Nat.le_of_not_lt within)]
      exact .overflow values (Nat.le_of_not_lt within)
  · intro ends
    cases ends with
    | overflow _ deep => exact (settles_failed fun _ => Eval.enter_of_deep deep).mpr rfl
    | body within ended =>
      obtain ⟨uninterrupted, bound, ended⟩ := ended
      refine ⟨Outcome.mapState_ne_interrupted.mpr uninterrupted, bound, ?_⟩
      beta_reduce
      rw [Eval.enter_eval within, ended]

/-- A call with as many arguments as parameters evaluates them in order and enters the body. With
another number nothing is evaluated. -/
theorem invoke_eq (run : Evaluator) (sameLength : args.length = routine.params.length) :
    Eval.invoke σ run routine args this =
      each .ok args run >>= fun values =>
        Eval.enter σ (calleeScope σ routine.params values this) (run (.stmt routine.body)) := by
  have sameArity : ¬args.length ≠ routine.arity := not_not.mpr sameLength
  rw [Eval.invoke, if_neg sameArity, Eval.bindArguments_eq run sameLength]
  simp only [bind_assoc, pure_bind]
  rfl

/-- With the right number of arguments, a routine is invoked by evaluating these in order, in the
scope of the caller, and then running its body in a scope that binds its parameters to their
values. -/
theorem settles_invoke (sameLength : args.length = routine.params.length) :
    Settles σ (fun run => Eval.invoke σ run routine args this) t outcome ↔
      ∃ evaluated, InOrder σ .ok args t evaluated ∧ CallEnds σ routine this evaluated outcome := by
  simp only [invoke_eq _ sameLength]
  apply settles_after_each fun _ => steady_enter σ _ _
  · exact fun values u _ => settles_enter
  · intro fault u
    constructor
    · rintro rfl
      exact .argument fault u
    · rintro ⟨⟩
      rfl

/-- Invoking a routine is steady: its arguments are, and so is the call. -/
theorem steady_invoke (σ : Settings) (routine : Routine) (args : List Expr)
    (this : Option ObjectId) : Steady σ fun run => Eval.invoke σ run routine args this := by
  by_cases sameLength : args.length = routine.params.length
  · simp only [invoke_eq _ sameLength]
    exact steady_bind (steady_each σ .ok args) fun _ => steady_enter σ _ _
  · simp only [Eval.invoke, Routine.arity, ne_eq, sameLength, not_false_eq_true, if_true]
    exact steady_const _

/-- Code that comes to call a routine ends as the call does, in the same outcome. -/
theorem ends_call_iff {code : Code} (reached : Calls σ code s routine args this t) :
    Ends σ code s outcome ↔
      Settles σ (fun run => Eval.invoke σ run routine args this) t outcome := by
  cases reached with
  | @function name args routine s bound =>
    rw [ends_iff_settles (Eval.call σ · name args) fun _ _ => rfl]
    apply settles_congr
    intro run
    simp only [Eval.call, State.function, bound]
  | @method name args routine e id s t evaluated bound =>
    have steady : Steady σ fun run => Eval.callMethod σ run id name args := by
      simp only [Eval.callMethod_eq]
      exact steady_bind (steady_const _) fun routine => steady_invoke σ routine args (some id)
    rw [ends_iff_settles (Eval.callSlot σ · e name args) fun _ _ => rfl]
    refine (settles_after evaluated steady).trans (settles_congr fun run => ?_)
    simp only [Eval.callMethod, Heap.method, bound]

end Construct

/-- The calling protocol. What is called is settled before an argument is evaluated. With too few or
too many arguments the call fails in the state it then has. Otherwise it ends as the evaluation of
its arguments, in order and in the scopes of the caller, and then its body make it end: with the
fault of an argument, at the depth limit, or as the body does, with the scope and the depth of the
caller as the arguments left them. The body starts in a scope that binds the receiver of a method
and else each parameter to the argument at the last place that has its name. -/
theorem calling_protocol {σ : Settings} {code : Code} {s t : State} {routine : Routine}
    {args : List Expr} {this : Option ObjectId} (reached : Calls σ code s routine args this t) :
    (args.length ≠ routine.params.length →
      Ends σ code s
        (.failed (.arityMismatch routine.name routine.params.length args.length) t)) ∧
    (args.length = routine.params.length → ∀ outcome, Ends σ code s outcome ↔
      ∃ evaluated, InOrder σ .ok args t evaluated ∧ CallEnds σ routine this evaluated outcome) ∧
    ∀ values,
      (∀ id, this = some id →
        (calleeScope σ routine.params values this).get? "this" = some (.var (.object id))) ∧
      ∀ name, name ≠ "this" ∨ this = none →
        (calleeScope σ routine.params values this).get? name =
          Table.lastEntry (routine.params.zip (values.map Binding.var)) name := by
  refine ⟨?_, ?_, ?_⟩
  · intro otherLength
    rw [Construct.ends_call_iff reached]
    have otherArity : args.length ≠ routine.arity := otherLength
    refine (Construct.settles_failed fun run => ?_).mpr rfl
    simp only [Eval.invoke, if_pos otherArity]
    rfl
  · intro sameLength outcome
    rw [Construct.ends_call_iff reached, Construct.settles_invoke sameLength]
  · intro values
    refine ⟨?_, fun name => get?_calleeScope σ routine.params values⟩
    rintro id rfl
    exact get?_calleeScope_this σ routine.params values id

/-- A function with one parameter name twice, of which an argument makes a variable. -/
theorem calling_protocol_rebound :
    let routine : Routine := ⟨"f", ["x", "x"], .expr (.ref "x")⟩
    let s : State := { State.initial .default .unlimited with
      globals := (Table.empty 1).insert "f" (.routine routine) }
    let args : List Expr := [.set "f" (.int 1), .int 7]
    let code := Code.expr (.call "f" args)
    Calls .default code s routine args none s ∧ args.length = routine.params.length ∧
      Ends .default code s (.done (.int 7) (s.bindGlobal "f" (.var (.int 1)))) := by
  intro routine s args code
  have reached : Calls .default code s routine args none s := .function (by simp [s])
  let t := s.bindGlobal "f" (.var (.int 1))
  have rebinds : Ends .default (.expr (.set "f" (.int 1))) s (.done .null t) := by
    refine ⟨by simp, 2, ?_⟩
    simp [eval_succ, Eval.step, Eval.expression, Eval.assign, State.assign, Table.contains, s, t,
      State.initial, bind, pure, Action.bind, Action.pure]
  have second : Ends .default (.expr (.int 7)) t (.done (.int 7) t) := ⟨by simp, 1, rfl⟩
  have evaluated : InOrder .default .ok args s (.done [.null, .int 7] t) :=
    .cons rebinds rfl (.cons second rfl (.nil t))
  let u : State := { t with
    locals := some (calleeScope .default routine.params [.null, .int 7] none), depth := 1 }
  have bodyEnds : Ends .default (.stmt routine.body) u (.done (.int 7) u) := by
    refine ⟨by simp, 2, ?_⟩
    have bound : (calleeScope .default routine.params [.null, .int 7] none).get? "x" =
        some (.var (.int 7)) := by
      rw [((calling_protocol reached).2.2 _).2 "x" (.inr rfl)]
      rfl
    have read : u.readVariable "x" = .ok (.int 7) := by
      simp only [State.readVariable, State.lookup, u, Option.bind_some, bound, Option.some_or]
    simp only [eval_succ, Eval.step, Eval.statement, Eval.expression, routine, read]
    rfl
  refine ⟨reached, rfl, ((calling_protocol reached).2.1 rfl _).mpr ⟨_, evaluated, ?_⟩⟩
  exact .body (by decide) bodyEnds

end SlotLang
