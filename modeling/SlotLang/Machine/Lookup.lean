import SlotLang.Machine.State

/-!
# Looking names up and binding them

A variable is sought in the local scope, if there is one, and then in the global scope; a function
only in the global scope; a slot or a method only in its object. A name that is not found is
reported with the nearest of the names that were searched.
-/

namespace SlotLang

namespace State

/-- What a variable's name is bound to. -/
def lookup (state : State) (name : String) : Option Binding :=
  (state.locals.bind (·.get? name)).or (state.globals.get? name)

/-- The names a variable may have, the local ones first. -/
def visibleNames (state : State) : List String :=
  (state.locals.map Table.names).getD [] ++ state.globals.names

/-- The value of a variable. -/
def readVariable (state : State) (name : String) : Except Fault Value :=
  match state.lookup name with
  | some (.var value) => .ok value
  | some (.routine _) => .error (.notVariable name)
  | none => .error (.undefinedVariable name (Names.suggest name state.visibleNames))

/-- Bind a global name. -/
def bindGlobal (state : State) (name : String) (binding : Binding) : State :=
  { state with globals := state.globals.insert name binding }

/-- Declare a variable in the innermost scope. -/
def declare (state : State) (name : String) (value : Value) : State :=
  match state.locals with
  | some scope => { state with locals := some (scope.insert name (.var value)) }
  | none => state.bindGlobal name (.var value)

/-- Assign to a name that is bound: in the local scope if it is bound there, else in the global
scope. A function's name may be assigned to, and is a variable from then on. -/
def assign (state : State) (name : String) (value : Value) : Except Fault State :=
  match state.locals.filter (·.contains name) with
  | some scope => .ok { state with locals := some (scope.insert name (.var value)) }
  | none =>
    if state.globals.contains name then .ok (state.bindGlobal name (.var value))
    else .error (.undefinedVariable name (Names.suggest name state.visibleNames))

/-- The global function of a name. -/
def function (state : State) (name : String) : Except Fault Routine :=
  match state.globals.get? name with
  | some (.routine routine) => .ok routine
  | some (.var _) => .error (.notFunction name)
  | none => .error (.undefinedFunction name (Names.suggest name state.globals.names))

end State

namespace Heap

/-- The value of an object's slot. -/
def readSlot (heap : Heap) (id : ObjectId) (name : String) : Except Fault Value :=
  match (heap.slots id).get? name with
  | some (.var value) => .ok value
  | some (.routine _) => .error (.notVariable name)
  | none => .error (.undefinedSlot name (Names.suggest name (heap.slots id).names))

/-- The method of an object. -/
def method (heap : Heap) (id : ObjectId) (name : String) : Except Fault Routine :=
  match (heap.slots id).get? name with
  | some (.routine routine) => .ok routine
  | some (.var _) => .error (.notFunction name)
  | none => .error (.undefinedMethod name (Names.suggest name (heap.slots id).names))

end Heap

end SlotLang
