import SlotLang.Machine.FreshStack
import SlotLang.Machine.IntOp
import SlotLang.Machine.Lookup
import SlotLang.Settings.Basic

/-!
# Evaluation

What a program does. Each construct is given in terms of an evaluator for the code inside it; the
evaluator itself is the one that ties this knot, up to a bound on how deeply code may nest and how
often a loop may turn. A bound that is too small interrupts the run; it never changes an answer.

The order in which a construct evaluates its parts, and the point at which it checks each of them,
decide which of two faults is reported and which effects happen before it. The definitions below
are that order.
-/

namespace SlotLang

/-- What an evaluator runs. -/
inductive Code where
  /-- An expression. -/
  | expr (e : Expr)
  /-- A statement. -/
  | stmt (s : Stmt)

/-- A way to run code. -/
abbrev Evaluator := Code → Action Value

namespace Eval

open SlotLang.Action

/-! ## Arguments -/

/-- Evaluate arguments from left to right. Each must be an integer before the next is evaluated;
`what` says what the argument at a position is. -/
def integers (run : Evaluator) (what : Nat → String) : Nat → List Expr → Action (List Int64)
  | _, [] => pure []
  | position, arg :: rest => do
    let value ← run (.expr arg)
    let n ← ofExcept (value.expectInt (what position))
    let others ← integers run what (position + 1) rest
    pure (n :: others)

/-- Evaluate arguments from left to right and bind each to its parameter in `scope`. -/
def bindArguments (run : Evaluator) : List (String × Expr) → Scope → Action Scope
  | [], scope => pure scope
  | (param, arg) :: rest, scope => do
    let value ← run (.expr arg)
    bindArguments run rest (scope.insert param (.var value))

/-! ## Printing -/

/-- How many values a format has places for. -/
def places (format : String) : Nat :=
  format.toList.count '~'

/-- The format with its tildes replaced by the values, in order. -/
def fill : List Char → List Int64 → List Char
  | [], _ => []
  | '~' :: format, n :: values => (decimal n).toList ++ fill format values
  | '~' :: format, [] => fill format []
  | c :: format, values => c :: fill format values

/-- Write a text to the sink. -/
def print (text : String) : Action Unit := fun state =>
  match state.sink.write text with
  | (none, sink) => .done () { state with sink }
  | (some fault, sink) => .failed fault { state with sink }

/-- Print a format filled with arguments. Too few arguments are noticed before any is evaluated;
surplus ones are evaluated and not shown. -/
def printf (run : Evaluator) (format : String) (args : List Expr) : Action Value :=
  if args.length < places format then fail (.arityMismatch "printf" (places format) args.length)
  else do
    let values ← integers run (fun _ => "printf argument") 0 args
    print (String.ofList (fill format.toList values))
    pure .null

/-! ## Arrays and objects -/

/-- Make an array. -/
def array (run : Evaluator) (length init : Expr) : Action Value := do
  let length ← ofExcept ((← run (.expr length)).expectInt "array length")
  let init ← ofExcept ((← run (.expr init)).expectInt "array initial value")
  let elements ← ofExcept (Elements.make length init)
  fun state =>
    let (id, heap) := state.heap.addArray elements
    .done (.array id) { state with heap }

/-- Add a member to the slots of an object under construction. An initialiser is evaluated in the
scopes around the literal and does not see the object. -/
def addMember (run : Evaluator) (slots : Scope) : Member → Action Scope
  | .var name init => do
    let value ← run (.expr init)
    pure (slots.insert name (.var value))
  | .method routine => pure (slots.insert routine.name (.routine routine))

/-- Add members in order. -/
def addMembers (run : Evaluator) : Scope → List Member → Action Scope
  | slots, [] => pure slots
  | slots, member :: rest => do
    let slots ← addMember run slots member
    addMembers run slots rest

/-- The slots an object starts with: none, or a copy of its parent's at this moment. -/
def inherited (σ : Settings) (parent : Value) : Action Scope :=
  match parent with
  | .null => pure (Table.empty σ.objectCapacity)
  | .object id => look fun state => state.heap.slots id
  | other => fail (.wrongType "object parent" "object or null" other.typeName)

/-- Make an object. It exists once all its members do. -/
def object (σ : Settings) (run : Evaluator) (parent : Expr) (members : List Member) :
    Action Value := do
  let parent ← run (.expr parent)
  let slots ← inherited σ parent
  let slots ← addMembers run slots members
  fun state =>
    let (id, heap) := state.heap.addObject slots
    .done (.object id) { state with heap }

/-- Evaluate the receiver of a slot, which must be an object. -/
def receiver (run : Evaluator) (e : Expr) (name : String) : Action ObjectId := do
  match ← run (.expr e) with
  | .object id => pure id
  | other => fail (.wrongType ("receiver of slot " ++ name) "object" other.typeName)

/-- Read a slot of an object. -/
def readSlot (id : ObjectId) (name : String) : Action Value := fun state =>
  ofExcept (state.heap.readSlot id name) state

/-- Write a slot that exists and holds a value. That it does is checked before the new value is
evaluated. -/
def setSlot (run : Evaluator) (e : Expr) (name : String) (value : Expr) : Action Value := do
  let id ← receiver run e name
  let _ ← readSlot id name
  let value ← run (.expr value)
  change fun state => { state with heap := state.heap.putSlot id name (.var value) }
  pure .null

/-! ## Calls -/

/-- Run a body as a call: in its own local scope and one level deeper, with both put back
afterwards however the body ends. -/
def enter (σ : Settings) (scope : Scope) (body : Action Value) : Action Value := fun state =>
  if σ.maxCallDepth ≤ state.depth then .failed (.stackOverflow σ.maxCallDepth) state
  else
    let caller := state.locals
    match body { state with locals := some scope, depth := state.depth + 1 } with
    | .done value state => .done value { state with locals := caller, depth := state.depth - 1 }
    | .failed fault state =>
      .failed fault { state with locals := caller, depth := state.depth - 1 }
    | .interrupted => .interrupted

/-- Bind the receiver of a method, over a parameter of the same name if there is one. -/
def bindThis (this : Option ObjectId) (scope : Scope) : Scope :=
  match this with
  | none => scope
  | some id => scope.insert "this" (.var (.object id))

/-- Call a routine. The number of arguments is checked before any is evaluated, and the call depth
after all are. -/
def invoke (σ : Settings) (run : Evaluator) (routine : Routine) (args : List Expr)
    (this : Option ObjectId) : Action Value :=
  if args.length ≠ routine.arity then
    fail (.arityMismatch routine.name routine.arity args.length)
  else do
    let scope ← bindArguments run (routine.params.zip args) (Table.empty σ.localCapacity)
    enter σ (bindThis this scope) (run (.stmt routine.body))

/-- Call a global function. -/
def call (σ : Settings) (run : Evaluator) (name : String) (args : List Expr) : Action Value :=
  fun state =>
    match state.function name with
    | .ok routine => invoke σ run routine args none state
    | .error fault => .failed fault state

/-- Apply an operator of integers. -/
def applyInt (run : Evaluator) (x : Int64) (name : String) (args : List Expr) : Action Value :=
  match IntOp.ofName? name with
  | none => fail (.unknownOperator name "int")
  | some op =>
    match args with
    | [arg] => do
      let y ← ofExcept ((← run (.expr arg)).expectInt ("operand of " ++ name))
      ofExcept (op.apply x y)
    | _ => fail (.arityMismatch name 1 args.length)

/-- Apply an operator of arrays to operands that are evaluated already. -/
def applyElements (id : ArrayId) (op : ArrayOp) (operands : List Int64) : Action Value :=
  fun state =>
    match op.value (state.heap.elements id) operands with
    | .ok value =>
      .done value { state with heap := state.heap.updateArray id (op.update operands) }
    | .error fault => .failed fault state

/-- Apply an operator of arrays. -/
def applyArray (run : Evaluator) (id : ArrayId) (name : String) (args : List Expr) :
    Action Value :=
  match ArrayOp.ofName? name with
  | none => fail (.unknownOperator name "array")
  | some op =>
    if args.length ≠ op.arity then fail (.arityMismatch name op.arity args.length)
    else do
      let operands ← integers run ArrayOp.operandName 0 args
      applyElements id op operands

/-- Call a method of an object. -/
def callMethod (σ : Settings) (run : Evaluator) (id : ObjectId) (name : String)
    (args : List Expr) : Action Value := fun state =>
  match state.heap.method id name with
  | .ok routine => invoke σ run routine args (some id) state
  | .error fault => .failed fault state

/-- Evaluate a receiver and call what its type has under the name. -/
def callSlot (σ : Settings) (run : Evaluator) (e : Expr) (name : String) (args : List Expr) :
    Action Value := do
  match ← run (.expr e) with
  | .int x => applyInt run x name args
  | .array id => applyArray run id name args
  | .object id => callMethod σ run id name args
  | .null => fail (.nullReference name)

/-! ## Variables and control -/

/-- Assign to a variable. -/
def assign (run : Evaluator) (name : String) (e : Expr) : Action Value := do
  let value ← run (.expr e)
  fun state =>
    match state.assign name value with
    | .ok state => .done .null state
    | .error fault => .failed fault state

/-- Take a branch. -/
def branch (run : Evaluator) (pred : Expr) (conseq alt : Stmt) : Action Value := do
  let value ← run (.expr pred)
  if value.isTruthy then run (.stmt conseq) else run (.stmt alt)

/-- Go round a loop, at most as often as the bound says. -/
def turns (run : Evaluator) (pred : Expr) (body : Stmt) : Nat → Action Value
  | 0 => interrupt
  | bound + 1 => fun state =>
    match run (.expr pred) state with
    | .done value state =>
      if value.continuesLoop then
        match run (.stmt body) state with
        | .done _ state => turns run pred body bound state
        | .failed fault state => .failed fault state
        | .interrupted => .interrupted
      else .done .null state
    | .failed fault state => .failed fault state
    | .interrupted => .interrupted

/-- A loop with turns left tests, and goes round once more after an integer. -/
theorem turns_succ (run : Evaluator) (pred : Expr) (body : Stmt) (bound : Nat) :
    turns run pred body (bound + 1) = (do
      let value ← run (.expr pred)
      if value.continuesLoop then do
        let _ ← run (.stmt body)
        turns run pred body bound
      else pure .null) := by
  funext state
  simp only [turns, bind, pure, Action.bind]
  cases run (.expr pred) state with
  | done value later =>
    by_cases again : value.continuesLoop
    · simp only [again, if_true, Action.bind]
      cases run (.stmt body) later <;> rfl
    · simp only [again]
      rfl
  | failed fault later => rfl
  | interrupted => rfl

/-! ## Code -/

/-- Evaluate an expression, given an evaluator for the code inside it. -/
def expression (σ : Settings) (bound : Nat) (run : Evaluator) : Expr → Action Value
  | .int n => pure (.int n)
  | .null => pure .null
  | .printf format args => printf run format args
  | .array length init => array run length init
  | .object parent members => object σ run parent members
  | .slot e name => do readSlot (← receiver run e name) name
  | .setSlot e name value => setSlot run e name value
  | .callSlot e name args => callSlot σ run e name args
  | .call name args => call σ run name args
  | .set name e => assign run name e
  | .cond pred conseq alt => branch run pred conseq alt
  | .loop pred body => turns run pred body bound
  | .ref name => fun state => ofExcept (state.readVariable name) state

/-- Run a statement, given an evaluator for the code inside it. Declarations yield null. -/
def statement (run : Evaluator) : Stmt → Action Value
  | .var name init => do
    let value ← run (.expr init)
    change (·.declare name value)
    pure .null
  | .fn routine => do
    change (·.bindGlobal routine.name (.routine routine))
    pure .null
  | .seq first second => do
    let _ ← run (.stmt first)
    run (.stmt second)
  | .expr e => run (.expr e)

/-- Run code, given an evaluator for the code inside it. -/
def step (σ : Settings) (bound : Nat) (run : Evaluator) : Code → Action Value
  | .expr e => expression σ bound run e
  | .stmt s => statement run s

end Eval

/-- Run code that nests at most `bound` deep, with loops that turn at most as often. -/
def eval (σ : Settings) : Nat → Evaluator
  | 0, _ => Action.interrupt
  | bound + 1, code => fun state =>
    atLevel bound fun _ => Eval.step σ bound (eval σ bound) code state

/-- With no bound left a run is interrupted. -/
theorem eval_zero (σ : Settings) (code : Code) : eval σ 0 code = Action.interrupt :=
  rfl

/-- With some bound left, one construct is evaluated, and the code inside it with a bound smaller by
one. This is how `eval` is unfolded in all that is shown of it. -/
theorem eval_succ (σ : Settings) (bound : Nat) (code : Code) :
    eval σ (bound + 1) code = Eval.step σ bound (eval σ bound) code := by
  funext state
  simp [eval]

/-- Run a program over the state's global scope, from the top level. -/
def runIn (σ : Settings) (bound : Nat) (program : Stmt) : Action Value := fun state =>
  eval σ bound (.stmt program) { state with locals := none, depth := 0 }

/-- Run a program over a fresh global scope. -/
def run (σ : Settings) (bound : Nat) (program : Stmt) : Action Value := fun state =>
  runIn σ bound program { state with globals := Table.empty σ.globalCapacity }

/-- The state before anything has run. -/
def State.initial (σ : Settings) (sink : Sink) : State where
  globals := Table.empty σ.globalCapacity
  locals := none
  heap := Heap.empty
  sink := sink
  depth := 0

end SlotLang
