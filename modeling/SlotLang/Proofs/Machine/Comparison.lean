import Mathlib.Data.List.Forall2
import SlotLang.Proofs.Machine.Parts

/-!
# Comparing two runs

Two runs side by side. A comparison says which of what the one run holds goes with which of what the
other holds, and which actions of the one go with which actions of the other. It is a congruence if
every single operation on the state goes with itself and actions that go with each other may be put
together. That is all that is needed: what a piece of code does on the one side then goes with what
code of the same construct does on the other, provided that their parts go together and that the
calls they make do. This is shown here once, construct by construct, for every comparison. In most
comparisons both runs are of the same code.

A comparison need not admit all code. It says which variables may be named and which routines may be
declared or called, so that code that keeps to these can be compared where other code cannot. What
is said of one run alone is a comparison of the run with itself.
-/

namespace SlotLang

/-- Corresponding values: the same integer, null on both sides, or corresponding identities. Values
of different kinds never correspond. -/
inductive Value.Corresponds (arrays : ArrayId → ArrayId → Prop)
    (objects : ObjectId → ObjectId → Prop) : Value → Value → Prop where
  /-- The same integer. -/
  | int (n : Int64) : Corresponds arrays objects (.int n) (.int n)
  /-- Null and null. -/
  | null : Corresponds arrays objects .null .null
  /-- Two arrays whose identities correspond. -/
  | array {i j : ArrayId} (same : arrays i j) : Corresponds arrays objects (.array i) (.array j)
  /-- Two objects whose identities correspond. -/
  | object {i j : ObjectId} (same : objects i j) :
      Corresponds arrays objects (.object i) (.object j)

/-! ## What constructs ask of a value -/

namespace Value.Corresponds

variable {arrays : ArrayId → ArrayId → Prop} {objects : ObjectId → ObjectId → Prop}
  {v v' : Value}

/-- Whether a value counts as true is the same for corresponding values: it depends on whether the
value is null, and null corresponds to null only. -/
theorem isTruthy (same : Corresponds arrays objects v v') : v.isTruthy = v'.isTruthy := by
  cases same <;> rfl

/-- So is whether a loop goes on, which depends on whether the value is null in the same way. -/
theorem continuesLoop (same : Corresponds arrays objects v v') :
    v.continuesLoop = v'.continuesLoop := by
  cases same <;> rfl

/-- Where an integer is wanted, corresponding values are the same integer, or both are refused. The
refusal names the kind of the value, which is the same too. -/
theorem expectInt (same : Corresponds arrays objects v v') (what : String) :
    v.expectInt what = v'.expectInt what := by
  cases same <;> rfl

/-- What an operator answers for a truth value is an integer or null, and corresponds to itself
whatever the identities correspond to. -/
theorem ofBool (holds : Bool) : Corresponds arrays objects (.ofBool holds) (.ofBool holds) := by
  cases holds with
  | false => exact .null
  | true => exact .int 0

/-- Where identities correspond only to themselves, so do values. -/
theorem iff_eq : Corresponds Eq Eq v v' ↔ v = v' := by
  constructor
  · intro same
    cases same with
    | int n => rfl
    | null => rfl
    | array same => exact congrArg Value.array same
    | object same => exact congrArg Value.object same
  · rintro rfl
    cases v with
    | int n => exact .int n
    | null => exact .null
    | array id => exact .array rfl
    | object id => exact .object rfl

end Value.Corresponds

/-- An operator of integers yields an integer or null, which corresponds to itself whatever is asked
of identities. -/
theorem IntOp.corresponds_of_apply {arrays : ArrayId → ArrayId → Prop}
    {objects : ObjectId → ObjectId → Prop} {op : IntOp} {x y : Int64} {value : Value}
    (answered : op.apply x y = .ok value) : value.Corresponds arrays objects value := by
  cases op with
  | add | sub | mul =>
    cases answered
    exact .int _
  | div | mod =>
    simp only [IntOp.apply] at answered
    split at answered
    · cases answered
    · cases answered
      exact .int _
  | eq | lt | le | gt | ge =>
    cases answered
    exact .ofBool _

/-- An operator of arrays yields an integer or null as well: elements are integers, and none of the
operators answers with an array. -/
theorem ArrayOp.corresponds_of_value {arrays : ArrayId → ArrayId → Prop}
    {objects : ObjectId → ObjectId → Prop} {op : ArrayOp} {elements : Elements}
    {operands : List Int64} {value : Value} (answered : op.value elements operands = .ok value) :
    value.Corresponds arrays objects value := by
  unfold ArrayOp.value at answered
  split at answered
  · cases answered
    exact .int _
  · next index =>
    cases found : elements.read index with
    | ok n =>
      simp only [found, Except.map] at answered
      cases answered
      exact .int n
    | error fault =>
      simp only [found, Except.map] at answered
      cases answered
  · split at answered
    · cases answered
      exact .null
    · cases answered
  · cases answered

/-! ## Operations on the state

Constructs are put together from the evaluation of parts, from calls, and from the operations below,
`Eval.print`, `Eval.readSlot` and `Eval.applyElements`. -/

namespace Eval

/-- Make an array of elements, in a cell of its own. The value refers to that cell. -/
def makeArray (elements : Elements) : Action Value := fun state =>
  .done (.array ⟨state.heap.arrays.size⟩)
    { state with heap := (state.heap.addArray elements).2 }

/-- Make an object of slots, in a cell of its own. -/
def makeObject (slots : Scope) : Action Value := fun state =>
  .done (.object ⟨state.heap.objects.size⟩)
    { state with heap := (state.heap.addObject slots).2 }

/-- Put what `evaluate` yields into a slot that held a value before. That it did is looked up first,
so a slot that is missing is a fault before anything is evaluated. -/
def replaceSlot (id : ObjectId) (name : String) (evaluate : Action Value) : Action Value := do
  let _ ← readSlot id name
  let value ← evaluate
  Action.change fun state => { state with heap := state.heap.putSlot id name (.var value) }
  pure .null

/-- Find the global function of a name. The local scope is not searched. -/
def findFunction (name : String) : Action Routine := fun state =>
  Action.ofExcept (state.function name) state

/-- Find the method of an object by its name, among the slots. -/
def findMethod (id : ObjectId) (name : String) : Action Routine := fun state =>
  Action.ofExcept (state.heap.method id name) state

/-- Read a variable, in the local scope if it is bound there and else in the global one. -/
def readVariable (name : String) : Action Value := fun state =>
  Action.ofExcept (state.readVariable name) state

/-- Assign a value to a variable. The construct yields null, and leaves the state as it is if there
is no such variable. -/
def assignValue (name : String) (value : Value) : Action Value := fun state =>
  match state.assign name value with
  | .ok state => .done .null state
  | .error fault => .failed fault state

/-- A call finds its function and then invokes it. The callee is bound before the arguments are
evaluated, which the definition does not show at once. -/
theorem call_eq (σ : Settings) (run : Evaluator) (name : String) (args : List Expr) :
    call σ run name args =
      findFunction name >>= fun routine => invoke σ run routine args none := by
  funext s
  show _ = Action.bind (findFunction name) _ s
  unfold call Action.bind findFunction
  cases s.function name <;> rfl

/-- A call of a method finds it in the slots of the receiver and then invokes it, with the receiver
at hand. -/
theorem callMethod_eq (σ : Settings) (run : Evaluator) (id : ObjectId) (name : String)
    (args : List Expr) :
    callMethod σ run id name args =
      findMethod id name >>= fun routine => invoke σ run routine args (some id) := by
  funext s
  show _ = Action.bind (findMethod id name) _ s
  unfold callMethod Action.bind findMethod
  cases s.heap.method id name <;> rfl

end Eval

/-! ## Comparisons -/

/-- What of one run goes with what of another run. Nothing is demanded of the relations here; what
makes them useful are the laws below. -/
structure Comparison where
  /-- Identities of arrays. -/
  arrays : ArrayId → ArrayId → Prop
  /-- Identities of objects. -/
  objects : ObjectId → ObjectId → Prop
  /-- Scopes, the slots of an object among them. -/
  scopes : Scope → Scope → Prop
  /-- Which variables may be named. -/
  names : String → Prop
  /-- Routines that may be declared and called. -/
  routines : Routine → Routine → Prop
  /-- On which relations between values the comparison of what comes next may rely. -/
  passes : ∀ {α β : Type}, (α → β → Prop) → Prop
  /-- Actions that end in values so related. -/
  actions : ∀ {α β : Type}, (α → β → Prop) → Action α → Action β → Prop

namespace Comparison

variable {R : Comparison} {α β γ δ : Type}

/-- Values that correspond as their identities do. -/
abbrev Values (R : Comparison) : Value → Value → Prop :=
  Value.Corresponds R.arrays R.objects

/-- Actions that go with each other may be put one after the other. What the first yields has to be
passed on in a relation that the comparison may rely on. -/
structure Composes (R : Comparison) : Prop where
  /-- The comparison of what follows may rely on values being equal, -/
  passesSame : ∀ {α : Type}, R.passes (@Eq α)
  /-- on values corresponding, -/
  passesValues : R.passes R.Values
  /-- on objects, -/
  passesObjects : R.passes R.objects
  /-- on scopes, -/
  passesScopes : R.passes R.scopes
  /-- and on routines. -/
  passesRoutines : R.passes R.routines
  /-- Yielding related values goes together. -/
  pure : ∀ {α β : Type} {V : α → β → Prop} {value value'}, V value value' →
    R.actions V (pure value) (pure value')
  /-- So does failing with the same fault. -/
  fail : ∀ {α β : Type} {V : α → β → Prop} (fault : Fault),
    R.actions V (Action.fail fault) (Action.fail fault)
  /-- And so does one action after another. -/
  bind : ∀ {α β γ δ : Type} {V : α → β → Prop} {W : γ → δ → Prop} {first : Action α}
    {first' : Action β} {next : α → Action γ} {next' : β → Action δ}, R.passes V →
    R.actions V first first' →
    (∀ value value', V value value' → R.actions W (next value) (next' value')) →
    R.actions W (first >>= next) (first' >>= next')

/-- A comparison under which every operation on the state goes with itself, under settings that may
differ between the two sides. -/
structure Congruence (R : Comparison) (σ σ' : Settings) : Prop extends R.Composes where
  /-- Routines that go together have the same name, -/
  sameName : ∀ {routine routine'}, R.routines routine routine' → routine.name = routine'.name
  /-- and the same parameters. -/
  sameParams : ∀ {routine routine'}, R.routines routine routine' →
    routine.params = routine'.params
  /-- Printing the same text goes together. -/
  print : ∀ text, R.actions Eq (Eval.print text) (Eval.print text)
  /-- So does making an array of the same elements. -/
  makeArray : ∀ elements, R.actions R.Values (Eval.makeArray elements) (Eval.makeArray elements)
  /-- So does an operator on corresponding arrays. -/
  applyElements : ∀ {i j} (op : ArrayOp) (operands : List Int64), R.arrays i j →
    R.actions R.Values (Eval.applyElements i op operands) (Eval.applyElements j op operands)
  /-- The empty scopes of calls go together. -/
  freshLocals : R.scopes (Table.empty σ.localCapacity) (Table.empty σ'.localCapacity)
  /-- So do the slots of objects without a parent. -/
  freshObject : R.scopes (Table.empty σ.objectCapacity) (Table.empty σ'.objectCapacity)
  /-- Binding corresponding values keeps scopes together. -/
  bindValue : ∀ {t t' v v'} (name : String), R.scopes t t' → R.Values v v' →
    R.scopes (t.insert name (.var v)) (t'.insert name (.var v'))
  /-- So does binding routines that go together. -/
  bindRoutine : ∀ {t t' routine routine'} (name : String), R.scopes t t' →
    R.routines routine routine' →
    R.scopes (t.insert name (.routine routine)) (t'.insert name (.routine routine'))
  /-- Corresponding objects have slots that go together. -/
  slots : ∀ {i j}, R.objects i j →
    R.actions R.scopes (Action.look (·.heap.slots i)) (Action.look (·.heap.slots j))
  /-- Objects made of such slots correspond. -/
  makeObject : ∀ {t t'}, R.scopes t t' →
    R.actions R.Values (Eval.makeObject t) (Eval.makeObject t')
  /-- Reading a slot of corresponding objects goes together. -/
  readSlot : ∀ {i j} (name : String), R.objects i j →
    R.actions R.Values (Eval.readSlot i name) (Eval.readSlot j name)
  /-- So does replacing one. -/
  replaceSlot : ∀ {i j evaluate evaluate'} (name : String), R.objects i j →
    R.actions R.Values evaluate evaluate' →
    R.actions R.Values (Eval.replaceSlot i name evaluate) (Eval.replaceSlot j name evaluate')
  /-- So does finding a method. -/
  findMethod : ∀ {i j} (name : String), R.objects i j →
    R.actions R.routines (Eval.findMethod i name) (Eval.findMethod j name)
  /-- Finding a function goes together. -/
  findFunction : ∀ name, R.actions R.routines (Eval.findFunction name) (Eval.findFunction name)
  /-- Variables that may be named are read together. -/
  readVariable : ∀ {name}, R.names name →
    R.actions R.Values (Eval.readVariable name) (Eval.readVariable name)
  /-- They are assigned together. -/
  assignValue : ∀ {name v v'}, R.names name → R.Values v v' →
    R.actions R.Values (Eval.assignValue name v) (Eval.assignValue name v')
  /-- They are declared together. -/
  declare : ∀ {name v v'}, R.names name → R.Values v v' →
    R.actions Eq (Action.change (·.declare name v)) (Action.change (·.declare name v'))
  /-- Routines that go together are declared together. -/
  bindGlobal : ∀ {routine routine'}, R.routines routine routine' →
    R.actions Eq (Action.change (·.bindGlobal routine.name (.routine routine)))
      (Action.change (·.bindGlobal routine'.name (.routine routine')))

/-- A slot is replaced by reading it, evaluating and writing it. So a comparison need only say how
each of the three goes together. -/
theorem Composes.replaceSlot (laws : R.Composes) {i j : ObjectId} {name : String}
    {evaluate evaluate' : Action Value}
    (read : R.actions R.Values (Eval.readSlot i name) (Eval.readSlot j name))
    (evaluated : R.actions R.Values evaluate evaluate')
    (written : ∀ v v', R.Values v v' →
      R.actions Eq
        (Action.change fun s => { s with heap := s.heap.putSlot i name (.var v) })
        (Action.change fun s => { s with heap := s.heap.putSlot j name (.var v') })) :
    R.actions R.Values (Eval.replaceSlot i name evaluate)
      (Eval.replaceSlot j name evaluate') := by
  apply laws.bind laws.passesValues read
  intro _ _ _
  apply laws.bind laws.passesValues evaluated
  intro value value' same
  apply laws.bind laws.passesSame (written value value' same)
  intro _ _ _
  exact laws.pure .null

/-! ## Constructs -/

/-- Expressions whose evaluation goes together, each on its side. -/
def Exprs (R : Comparison) (run run' : Evaluator) (e e' : Expr) : Prop :=
  R.actions R.Values (run (.expr e)) (run' (.expr e'))

/-- Statements whose evaluation goes together, each on its side. -/
def Stmts (R : Comparison) (run run' : Evaluator) (s s' : Stmt) : Prop :=
  R.actions R.Values (run (.stmt s)) (run' (.stmt s'))

section Constructs

variable {σ σ' : Settings} {run run' : Evaluator} (laws : R.Congruence σ σ')

include laws

/-- A computation that sees no state goes with itself, whether it answers or fails. -/
theorem actions_ofExcept {V : α → α → Prop} {answer : Except Fault α}
    (same : ∀ value, answer = .ok value → V value value) :
    R.actions V (Action.ofExcept answer) (Action.ofExcept answer) := by
  cases answer with
  | ok value => exact laws.pure (same value rfl)
  | error fault => exact laws.fail fault

/-- Asking corresponding values for an integer goes together, and the integer is the same on both
sides. -/
theorem actions_expectInt {v v' : Value} (same : R.Values v v') (what : String) :
    R.actions Eq (Action.ofExcept (v.expectInt what)) (Action.ofExcept (v'.expectInt what)) := by
  rw [same.expectInt]
  exact actions_ofExcept laws fun _ _ => rfl

/-! ### Arguments and printing -/

/-- Expressions that are to be integers yield the same integers. By induction over the expressions;
the position of each is part of the message in which it is refused. -/
theorem actions_integers (what : Nat → String) (position : Nat) {args args' : List Expr}
    (evaluated : List.Forall₂ (R.Exprs run run') args args') :
    R.actions Eq (Eval.integers run what position args)
      (Eval.integers run' what position args') := by
  induction evaluated generalizing position with
  | nil => exact laws.pure rfl
  | cons head _ inductionHypothesis =>
    apply laws.bind laws.passesValues head
    intro value value' same
    apply laws.bind laws.passesSame (actions_expectInt laws same (what position))
    rintro n _ rfl
    apply laws.bind laws.passesSame (inductionHypothesis (position + 1))
    rintro others _ rfl
    exact laws.pure rfl

/-- Arguments are evaluated from left to right and bound to parameters that have the same names on
both sides. The shorter list decides how many. -/
theorem actions_bindArguments (params : List String) {args args' : List Expr}
    (evaluated : List.Forall₂ (R.Exprs run run') args args')
    {t t' : Scope} (scopes : R.scopes t t') :
    R.actions R.scopes (Eval.bindArguments run (params.zip args) t)
      (Eval.bindArguments run' (params.zip args') t') := by
  induction evaluated generalizing params t t' with
  | nil =>
    rw [List.zip_nil_right]
    exact laws.pure scopes
  | cons head _ inductionHypothesis =>
    cases params with
    | nil => exact laws.pure scopes
    | cons param params =>
      apply laws.bind laws.passesValues head
      intro value value' same
      exact inductionHypothesis params (laws.bindValue param scopes same)

/-- Filling in a format goes together: the number of arguments is the same, so both sides refuse it
or both print, and what is printed is made of integers. -/
theorem actions_printf (format : String) {args args' : List Expr}
    (evaluated : List.Forall₂ (R.Exprs run run') args args') :
    R.actions R.Values (Eval.printf run format args) (Eval.printf run' format args') := by
  unfold Eval.printf
  rw [evaluated.length_eq]
  split
  · exact laws.fail _
  · apply laws.bind laws.passesSame (actions_integers laws _ 0 evaluated)
    rintro values _ rfl
    apply laws.bind laws.passesSame (laws.print _)
    intro _ _ _
    exact laws.pure .null

/-! ### Arrays and objects -/

/-- Making an array goes together. The length and the initial value are the same integers, so the
elements are the same. -/
theorem actions_array {length length' init init' : Expr} (lengths : R.Exprs run run' length length')
    (inits : R.Exprs run run' init init') :
    R.actions R.Values (Eval.array run length init) (Eval.array run' length' init') := by
  apply laws.bind laws.passesValues lengths
  intro value value' same
  apply laws.bind laws.passesSame (actions_expectInt laws same _)
  rintro length _ rfl
  apply laws.bind laws.passesValues inits
  intro value value' same
  apply laws.bind laws.passesSame (actions_expectInt laws same _)
  rintro init _ rfl
  apply laws.bind laws.passesSame (actions_ofExcept laws fun _ _ => rfl)
  rintro elements _ rfl
  exact laws.makeArray elements

/-- Adding a member goes together. A variable is bound to corresponding values, and a method to
routines that may be called. -/
theorem actions_addMember {member member' : Member}
    (matching : Member.Matches (R.Exprs run run') R.routines member member')
    {t t' : Scope} (scopes : R.scopes t t') :
    R.actions R.scopes (Eval.addMember run t member) (Eval.addMember run' t' member') := by
  cases matching with
  | var name evaluated =>
    apply laws.bind laws.passesValues evaluated
    intro value value' same
    exact laws.pure (laws.bindValue name scopes same)
  | @method routine routine' declared =>
    have added := laws.bindRoutine routine.name scopes declared
    rw [Eval.addMember, Eval.addMember, ← laws.sameName declared]
    exact laws.pure added

/-- Members are added in the same order on both sides, so that later ones see what earlier ones have
done to the state, and replace those of the same name. -/
theorem actions_addMembers {members members' : List Member}
    (matching : List.Forall₂ (Member.Matches (R.Exprs run run') R.routines) members members')
    {t t' : Scope} (scopes : R.scopes t t') :
    R.actions R.scopes (Eval.addMembers run t members) (Eval.addMembers run' t' members') := by
  induction matching generalizing t t' with
  | nil => exact laws.pure scopes
  | cons head _ inductionHypothesis =>
    apply laws.bind laws.passesScopes (actions_addMember laws head scopes)
    intro u u' scopes
    exact inductionHypothesis scopes

/-- An object inherits the slots of its parent, or nothing from null. Any other value is refused by
its kind, which is the same on both sides. -/
theorem actions_inherited {parent parent' : Value} (same : R.Values parent parent') :
    R.actions R.scopes (Eval.inherited σ parent) (Eval.inherited σ' parent') := by
  cases same with
  | null => exact laws.pure laws.freshObject
  | object same => exact laws.slots same
  | int | array => exact laws.fail _

/-- Making an object goes together: the parent, the members in order, and the object that holds the
slots. -/
theorem actions_object {parent parent' : Expr} {members members' : List Member}
    (parents : R.Exprs run run' parent parent')
    (matching : List.Forall₂ (Member.Matches (R.Exprs run run') R.routines) members members') :
    R.actions R.Values (Eval.object σ run parent members)
      (Eval.object σ' run' parent' members') := by
  apply laws.bind laws.passesValues parents
  intro value value' same
  apply laws.bind laws.passesScopes (actions_inherited laws same)
  intro t t' scopes
  apply laws.bind laws.passesScopes (actions_addMembers laws matching scopes)
  intro u u' scopes
  exact laws.makeObject scopes

/-- The receiver of an access is an object on both sides, or refused on both. The refusal names the
kind of the value, which is the same. -/
theorem actions_receiver {e e' : Expr} (name : String) (evaluated : R.Exprs run run' e e') :
    R.actions R.objects (Eval.receiver run e name) (Eval.receiver run' e' name) := by
  apply laws.bind laws.passesValues evaluated
  intro value value' same
  cases same with
  | object same => exact laws.pure same
  | int | null | array => exact laws.fail _

/-! ### Calls -/

/-- The scope of a method binds the receiver by its name; the scope of a function binds nothing
more. -/
theorem scopes_bindThis {this this' : Option ObjectId} (same : Option.Rel R.objects this this')
    {t t' : Scope} (scopes : R.scopes t t') :
    R.scopes (Eval.bindThis this t) (Eval.bindThis this' t') := by
  cases same with
  | none => exact scopes
  | some same => exact laws.bindValue "this" scopes (.object same)

section Calling

variable {args args' : List Expr} (evaluated : List.Forall₂ (R.Exprs run run') args args')
  (called : ∀ {routine routine' : Routine} {t t' : Scope}, R.routines routine routine' →
    R.scopes t t' → R.actions R.Values (Eval.enter σ t (run (.stmt routine.body)))
      (Eval.enter σ' t' (run' (.stmt routine'.body))))

include evaluated called

/-- Invoking routines that may be called goes together. They have the same name and the same number
of parameters, so a wrong number of arguments is refused in the same words, and the body is entered
with scopes that go together. -/
theorem actions_invoke {routine routine' : Routine} (admitted : R.routines routine routine')
    {this this' : Option ObjectId} (same : Option.Rel R.objects this this') :
    R.actions R.Values (Eval.invoke σ run routine args this)
      (Eval.invoke σ' run' routine' args' this') := by
  unfold Eval.invoke Routine.arity
  rw [evaluated.length_eq, laws.sameName admitted, laws.sameParams admitted]
  split
  · exact laws.fail _
  · apply laws.bind laws.passesScopes
      (actions_bindArguments laws routine'.params evaluated laws.freshLocals)
    intro t t' scopes
    exact called admitted (scopes_bindThis laws same scopes)

/-- A call goes together, since what is found by a name on either side may be called. By then
nothing has been evaluated yet. -/
theorem actions_call (name : String) :
    R.actions R.Values (Eval.call σ run name args) (Eval.call σ' run' name args') := by
  rw [Eval.call_eq, Eval.call_eq]
  apply laws.bind laws.passesRoutines (laws.findFunction name)
  intro routine routine' admitted
  exact actions_invoke laws evaluated called admitted .none

/-- A call of a method goes together if the receivers do. The method is found in the slots of each
and is called with that object as its receiver. -/
theorem actions_callMethod {i j : ObjectId} (object : R.objects i j) (name : String) :
    R.actions R.Values (Eval.callMethod σ run i name args)
      (Eval.callMethod σ' run' j name args') := by
  rw [Eval.callMethod_eq, Eval.callMethod_eq]
  apply laws.bind laws.passesRoutines (laws.findMethod name object)
  intro routine routine' admitted
  exact actions_invoke laws evaluated called admitted (.some object)

omit called in
/-- An operator of an integer goes together. It takes one operand, and any other number is refused
in the same words. -/
theorem actions_applyInt (x : Int64) (name : String) :
    R.actions R.Values (Eval.applyInt run x name args) (Eval.applyInt run' x name args') := by
  unfold Eval.applyInt
  split
  · exact laws.fail _
  · cases evaluated with
    | nil => exact laws.fail _
    | cons head tail =>
      cases tail with
      | nil =>
        apply laws.bind laws.passesValues head
        intro value value' same
        apply laws.bind laws.passesSame (actions_expectInt laws same _)
        rintro y _ rfl
        exact actions_ofExcept laws fun _ => IntOp.corresponds_of_apply
      | cons second others =>
        simp only [List.length_cons, others.length_eq]
        exact laws.fail _

omit called in
/-- An operator of an array goes together if the arrays do. The operands are integers, so they are
the same. -/
theorem actions_applyArray {i j : ArrayId} (array : R.arrays i j) (name : String) :
    R.actions R.Values (Eval.applyArray run i name args)
      (Eval.applyArray run' j name args') := by
  unfold Eval.applyArray
  rw [evaluated.length_eq]
  split
  · exact laws.fail _
  · next op _ =>
    split
    · exact laws.fail _
    · apply laws.bind laws.passesSame (actions_integers laws _ 0 evaluated)
      rintro operands _ rfl
      exact laws.applyElements op operands array

/-- A call on a value goes together: corresponding values are of one kind, and the kind decides
which of the above it is. -/
theorem actions_callSlot {e e' : Expr} (name : String) (receivers : R.Exprs run run' e e') :
    R.actions R.Values (Eval.callSlot σ run e name args)
      (Eval.callSlot σ' run' e' name args') := by
  apply laws.bind laws.passesValues receivers
  intro value value' same
  cases same with
  | int n => exact actions_applyInt laws evaluated n name
  | array same => exact actions_applyArray laws evaluated same name
  | object same => exact actions_callMethod laws evaluated called same name
  | null => exact laws.fail _

end Calling

/-! ### Control -/

/-- A condition goes together, because both sides choose the same branch. The other branch is not
evaluated on either side. -/
theorem actions_branch {pred pred' : Expr} {conseq conseq' alt alt' : Stmt}
    (tested : R.Exprs run run' pred pred') (taken : R.Stmts run run' conseq conseq')
    (otherwise : R.Stmts run run' alt alt') :
    R.actions R.Values (Eval.branch run pred conseq alt)
      (Eval.branch run' pred' conseq' alt') := by
  apply laws.bind laws.passesValues tested
  intro value value' same
  rw [same.isTruthy]
  split
  · exact taken
  · exact otherwise

/-- Loops go together turn by turn. The right one may turn more often: what it does after the last
turn of the left one has to go with being interrupted. -/
theorem actions_turns {pred pred' : Expr} {body body' : Stmt} (bound more : Nat)
    (tested : R.Exprs run run' pred pred') (turned : R.Stmts run run' body body')
    (ended : R.actions R.Values Action.interrupt (Eval.turns run' pred' body' more)) :
    R.actions R.Values (Eval.turns run pred body bound)
      (Eval.turns run' pred' body' (bound + more)) := by
  induction bound with
  | zero =>
    rw [Nat.zero_add]
    exact ended
  | succ bound inductionHypothesis =>
    rw [Nat.add_right_comm, Eval.turns_succ, Eval.turns_succ]
    apply laws.bind laws.passesValues tested
    intro value value' same
    rw [same.continuesLoop]
    split
    · apply laws.bind laws.passesValues turned
      intro _ _ _
      exact inductionHypothesis
    · exact laws.pure .null

/-! ### Code -/

/-- Code of one construct goes together on both sides if its parts do, if the calls of admitted
routines do and if the code itself keeps to what is admitted. Loops are left to the caller, who
knows how the two bounds compare. -/
theorem actions_matching {bound bound' : Nat} {code code' : Code}
    (matching : Code.Matches (R.Exprs run run') (R.Stmts run run') R.routines code code')
    (named : ∀ name, code.ownName? = some name → R.names name)
    (called : ∀ {routine routine' : Routine} {t t' : Scope}, R.routines routine routine' →
      R.scopes t t' → R.actions R.Values (Eval.enter σ t (run (.stmt routine.body)))
        (Eval.enter σ' t' (run' (.stmt routine'.body))))
    (looped : ∀ {pred body pred' body'}, code = .expr (.loop pred body) →
      code' = .expr (.loop pred' body') →
      R.actions R.Values (Eval.turns run pred body bound)
        (Eval.turns run' pred' body' bound')) :
    R.actions R.Values (Eval.step σ bound run code) (Eval.step σ' bound' run' code') := by
  cases matching with
  | int n => exact laws.pure (.int n)
  | null => exact laws.pure .null
  | printf format args => exact actions_printf laws format args
  | array lengths inits => exact actions_array laws lengths inits
  | object parents members => exact actions_object laws parents members
  | slot name receivers =>
    apply laws.bind laws.passesObjects (actions_receiver laws name receivers)
    intro i j object
    exact laws.readSlot name object
  | setSlot name receivers values =>
    apply laws.bind laws.passesObjects (actions_receiver laws name receivers)
    intro i j object
    exact laws.replaceSlot name object values
  | callSlot name receivers args => exact actions_callSlot laws args called name receivers
  | call name args => exact actions_call laws args called name
  | set name values =>
    apply laws.bind laws.passesValues values
    intro value value' same
    exact laws.assignValue (named name rfl) same
  | cond preds conseqs alts => exact actions_branch laws preds conseqs alts
  | loop preds bodies => exact looped rfl rfl
  | ref name => exact laws.readVariable (named name rfl)
  | var name inits =>
    apply laws.bind laws.passesValues inits
    intro value value' same
    apply laws.bind laws.passesSame (laws.declare (named name rfl) same)
    intro _ _ _
    exact laws.pure .null
  | fn declared =>
    apply laws.bind laws.passesSame (laws.bindGlobal declared)
    intro _ _ _
    exact laws.pure .null
  | seq firsts seconds =>
    apply laws.bind laws.passesValues firsts
    intro _ _ _
    exact seconds
  | exprStmt exprs => exact exprs

/-- What code does goes together on both sides if its parts do, if the calls of admitted routines do
and if the code itself keeps to what is admitted. -/
theorem actions_step {bound bound' : Nat} {code : Code}
    (parts : ∀ part ∈ code.parts, R.actions R.Values (run part) (run' part))
    (named : ∀ name, code.ownName? = some name → R.names name)
    (declared : ∀ routine ∈ code.routines, R.routines routine routine)
    (called : ∀ {routine routine' : Routine} {t t' : Scope}, R.routines routine routine' →
      R.scopes t t' → R.actions R.Values (Eval.enter σ t (run (.stmt routine.body)))
        (Eval.enter σ' t' (run' (.stmt routine'.body))))
    (looped : ∀ {pred body}, code = .expr (.loop pred body) →
      R.actions R.Values (Eval.turns run pred body bound)
        (Eval.turns run' pred body bound')) :
    R.actions R.Values (Eval.step σ bound run code) (Eval.step σ' bound' run' code) := by
  apply actions_matching laws
  case matching =>
    exact .self (fun e inside => parts (.expr e) inside) (fun s inside => parts (.stmt s) inside)
      declared
  case named => exact named
  case called => exact called
  case looped =>
    rintro pred body pred' body' rfl ⟨⟩
    exact looped rfl

/-- Where all code is admitted, routines go with themselves only, and calls go together if their
bodies do, evaluation of the same code goes together. The right bound may be larger: being
interrupted then has to go with whatever may come. The induction is on the left bound. -/
theorem actions_eval (more : Nat) (named : ∀ name, R.names name)
    (sameRoutines : ∀ {routine routine'}, R.routines routine routine' ↔ routine = routine')
    (entered : ∀ {t t' body body'}, R.scopes t t' → R.actions R.Values body body' →
      R.actions R.Values (Eval.enter σ t body) (Eval.enter σ' t' body'))
    (stopped : ∀ action, (more = 0 → action = Action.interrupt) →
      R.actions R.Values Action.interrupt action)
    (bound : Nat) (code : Code) :
    R.actions R.Values (eval σ bound code) (eval σ' (bound + more) code) := by
  induction bound generalizing code with
  | zero =>
    apply stopped
    rintro rfl
    rfl
  | succ bound inductionHypothesis =>
    rw [Nat.add_right_comm, eval_succ, eval_succ]
    apply actions_step laws
    case parts => exact fun part _ => inductionHypothesis part
    case named => exact fun name _ => named name
    case declared => exact fun routine _ => sameRoutines.mpr rfl
    case called =>
      intro routine routine' _ _ admitted scopes
      rw [sameRoutines.mp admitted]
      exact entered scopes (inductionHypothesis _)
    case looped =>
      intro pred body _
      apply actions_turns laws bound more (inductionHypothesis _) (inductionHypothesis _)
      apply stopped
      rintro rfl
      rfl

end Constructs

/-! ## Runs that hand on the same values -/

/-- Whatever the right value is, it goes with some left one. Where one run ends early, what comes
next on the other side is judged by such a left value. -/
def RightTotal (V : α → β → Prop) : Prop :=
  ∀ value', ∃ value, V value value'

/-- The operations on a state, other than replacing a slot, in which only some variables are
named. -/
inductive Operation (names : String → Prop) : ∀ {α : Type}, Action α → Prop where
  | print (text : String) : Operation names (Eval.print text)
  | makeArray (elements : Elements) : Operation names (Eval.makeArray elements)
  | applyElements (id : ArrayId) (op : ArrayOp) (operands : List Int64) :
      Operation names (Eval.applyElements id op operands)
  | slots (id : ObjectId) : Operation names (Action.look (·.heap.slots id))
  | makeObject (slots : Scope) : Operation names (Eval.makeObject slots)
  | readSlot (id : ObjectId) (name : String) : Operation names (Eval.readSlot id name)
  | findMethod (id : ObjectId) (name : String) : Operation names (Eval.findMethod id name)
  | findFunction (name : String) : Operation names (Eval.findFunction name)
  | readVariable {name : String} (admitted : names name) :
      Operation names (Eval.readVariable name)
  | assignValue {name : String} (admitted : names name) (value : Value) :
      Operation names (Eval.assignValue name value)
  | declare {name : String} (admitted : names name) (value : Value) :
      Operation names (Action.change (·.declare name value))
  | bindGlobal (routine : Routine) :
      Operation names (Action.change (·.bindGlobal routine.name (.routine routine)))

/-- The comparison of runs in which corresponding values and scopes are the same. Only actions are
compared, by a relation that is left open. -/
def plain (names : String → Prop)
    (actions : ∀ {α β : Type}, (α → β → Prop) → Action α → Action β → Prop) : Comparison where
  arrays := Eq
  objects := Eq
  scopes := Eq
  names := names
  routines := Eq
  passes := RightTotal
  actions := actions

section Plain

variable {names : String → Prop}
  {actions : ∀ {α β : Type}, (α → β → Prop) → Action α → Action β → Prop}

/-- In a plain comparison identities correspond to themselves, and so does every value. -/
theorem plain_values (value : Value) : (plain names actions).Values value value :=
  Value.Corresponds.iff_eq.mpr rfl

/-- The actions of a plain comparison may be put together if the relation between actions says so.
What a construct passes on is equal on both sides, so every value of the right side has a partner,
which is all that a plain comparison asks of a relation that it passes. -/
theorem plain_composes
    (pure : ∀ {α β : Type} {V : α → β → Prop} {value value'}, V value value' →
      actions V (pure value) (pure value'))
    (fail : ∀ {α β : Type} {V : α → β → Prop} (fault : Fault),
      actions V (Action.fail fault) (Action.fail fault))
    (bind : ∀ {α β γ δ : Type} {V : α → β → Prop} {W : γ → δ → Prop} {first : Action α}
      {first' : Action β} {next : α → Action γ} {next' : β → Action δ}, RightTotal V →
      actions V first first' →
      (∀ value value', V value value' → actions W (next value) (next' value')) →
      actions W (first >>= next) (first' >>= next')) :
    (plain names actions).Composes where
  passesSame := fun value => ⟨value, rfl⟩
  passesValues := fun value => ⟨value, plain_values value⟩
  passesObjects := fun id => ⟨id, rfl⟩
  passesScopes := fun scope => ⟨scope, rfl⟩
  passesRoutines := fun routine => ⟨routine, rfl⟩
  pure := pure
  fail := fail
  bind := bind

/-- For a plain comparison to be a congruence it is enough that each operation on the state goes
with itself. This is what a statement about one and the same code under two settings comes down
to. -/
theorem plain_congruence {σ σ' : Settings} (sameLocals : σ.localCapacity = σ'.localCapacity)
    (sameObjects : σ.objectCapacity = σ'.objectCapacity)
    (composes : (plain names actions).Composes)
    (operation : ∀ {α : Type} {V : α → α → Prop} {action : Action α}, Operation names action →
      (∀ value, V value value) → actions V action action)
    (replaceSlot : ∀ (id : ObjectId) (name : String) {evaluate evaluate' : Action Value},
      actions (plain names actions).Values evaluate evaluate' →
      actions (plain names actions).Values (Eval.replaceSlot id name evaluate)
        (Eval.replaceSlot id name evaluate')) :
    (plain names actions).Congruence σ σ' where
  toComposes := composes
  sameName := congrArg Routine.name
  sameParams := congrArg Routine.params
  print := fun text => operation (.print text) fun _ => rfl
  makeArray := fun elements => operation (.makeArray elements) plain_values
  applyElements := by
    rintro id _ op operands rfl
    exact operation (.applyElements id op operands) plain_values
  freshLocals := congrArg Table.empty sameLocals
  freshObject := congrArg Table.empty sameObjects
  bindValue := by
    rintro t _ v v' name rfl same
    rw [Value.Corresponds.iff_eq.mp same]
    rfl
  bindRoutine := by
    rintro t _ routine _ name rfl rfl
    rfl
  slots := by
    rintro id _ rfl
    exact operation (.slots id) fun _ => rfl
  makeObject := by
    rintro slots _ rfl
    exact operation (.makeObject slots) plain_values
  readSlot := by
    rintro id _ name rfl
    exact operation (.readSlot id name) plain_values
  replaceSlot := by
    rintro id _ evaluate evaluate' name rfl evaluated
    exact replaceSlot id name evaluated
  findMethod := by
    rintro id _ name rfl
    exact operation (.findMethod id name) fun _ => rfl
  findFunction := fun name => operation (.findFunction name) fun _ => rfl
  readVariable := fun admitted => operation (.readVariable admitted) plain_values
  assignValue := by
    intro name v v' admitted same
    obtain rfl := Value.Corresponds.iff_eq.mp same
    exact operation (.assignValue admitted v) plain_values
  declare := by
    intro name v v' admitted same
    obtain rfl := Value.Corresponds.iff_eq.mp same
    exact operation (.declare admitted v) fun _ => rfl
  bindGlobal := by
    rintro routine _ rfl
    exact operation (.bindGlobal routine) fun _ => rfl

end Plain

end Comparison

end SlotLang
