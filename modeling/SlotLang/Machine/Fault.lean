import SlotLang.Names.Suggestion

/-!
# Faults

The ways a running program fails. A fault is its cause; the kind it belongs to and the words that
report it are functions of the cause.
-/

namespace SlotLang

/-- Why a program stopped. -/
inductive Fault where
  /-- `what` had to be `expected` and was `got`. -/
  | wrongType (what expected got : String)
  /-- No scope binds the variable. -/
  | undefinedVariable (name : String) (suggestion : Option String)
  /-- The object has no such slot. -/
  | undefinedSlot (name : String) (suggestion : Option String)
  /-- The global scope has no such function. -/
  | undefinedFunction (name : String) (suggestion : Option String)
  /-- The object has no such method. -/
  | undefinedMethod (name : String) (suggestion : Option String)
  /-- A function stands where a variable was wanted. -/
  | notVariable (name : String)
  /-- A variable stands where a function was wanted. -/
  | notFunction (name : String)
  /-- A call with too few or too many arguments. -/
  | arityMismatch (name : String) (expected got : Nat)
  /-- The receiver's type has no such operator. -/
  | unknownOperator (name receiver : String)
  /-- A call on the absent value. -/
  | nullReference (name : String)
  /-- An index that no element has. -/
  | indexOutOfBounds (index : Int64) (length : Nat)
  /-- A quotient or remainder by zero. -/
  | divisionByZero
  /-- One more call than `limit` allows. -/
  | stackOverflow (limit : Nat)
  /-- The output sink refused. -/
  | output (message : String)
  deriving DecidableEq

namespace Fault

/-- The kinds that faults fall into. -/
inductive Kind where
  | wrongType
  | undefinedVariable
  | undefinedSlot
  | undefinedFunction
  | kindMismatch
  | arityMismatch
  | unknownOperator
  | nullReference
  | indexOutOfBounds
  | divisionByZero
  | stackOverflow
  | output
  deriving DecidableEq

/-- The kind of a fault. A missing method counts as a missing function, and the two confusions of
variable and function are one kind. -/
def kind : Fault → Kind
  | wrongType _ _ _ => .wrongType
  | undefinedVariable _ _ => .undefinedVariable
  | undefinedSlot _ _ => .undefinedSlot
  | undefinedFunction _ _ => .undefinedFunction
  | undefinedMethod _ _ => .undefinedFunction
  | notVariable _ => .kindMismatch
  | notFunction _ => .kindMismatch
  | arityMismatch _ _ _ => .arityMismatch
  | unknownOperator _ _ => .unknownOperator
  | nullReference _ => .nullReference
  | indexOutOfBounds _ _ => .indexOutOfBounds
  | divisionByZero => .divisionByZero
  | stackOverflow _ => .stackOverflow
  | output _ => .output

/-- What a fault says. -/
def message : Fault → String
  | wrongType what expected got => s!"type error: {what} must be {expected}, got {got}"
  | undefinedVariable name suggestion =>
    "variable not found: " ++ name ++ Names.hint suggestion
  | undefinedSlot name suggestion =>
    "slot not found in object: " ++ name ++ Names.hint suggestion
  | undefinedFunction name suggestion =>
    "function not found: " ++ name ++ Names.hint suggestion
  | undefinedMethod name suggestion =>
    "method not found in object: " ++ name ++ Names.hint suggestion
  | notVariable name => name ++ " is a function, not a variable"
  | notFunction name => name ++ " is a variable, not a function"
  | arityMismatch name expected got => s!"{name} expects {expected} argument(s), got {got}"
  | unknownOperator name receiver => s!"operator {name} not recognized for {receiver}"
  | nullReference name => s!"calling {name} from a null reference"
  | indexOutOfBounds index length =>
    "index " ++ toString index.toInt ++ " out of bounds for length " ++ toString length
  | divisionByZero => "division by zero"
  | stackOverflow limit => s!"stack overflow: call depth exceeded {limit}"
  | output message => "IO error: " ++ message

/-- What a host shows of a fault. -/
def display (fault : Fault) : String :=
  "Runtime error: " ++ fault.message

end Fault

end SlotLang
