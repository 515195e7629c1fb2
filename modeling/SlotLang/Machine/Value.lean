import SlotLang.Machine.Fault
import SlotLang.Program.Basic

/-!
# Values and bindings

Integers and null are plain data; arrays and objects are references into the heap, so two names may
share one. A name is bound either to a value or to a routine.
-/

namespace SlotLang

/-- The identity of an array on the heap. -/
structure ArrayId where
  /-- How many arrays were made before it. -/
  index : Nat
  deriving DecidableEq

/-- The identity of an object on the heap. -/
structure ObjectId where
  /-- How many objects were made before it. -/
  index : Nat
  deriving DecidableEq

/-- What an expression evaluates to. Two values are equal if they are the same integer, both null,
or the same array or object; arrays and objects are not compared by what they hold. -/
inductive Value where
  /-- A 64-bit integer. -/
  | int (n : Int64)
  /-- The absent value. -/
  | null
  /-- An array. -/
  | array (id : ArrayId)
  /-- An object. -/
  | object (id : ObjectId)
  deriving DecidableEq

/-- What a name is bound to. -/
inductive Binding where
  /-- A variable or a slot. -/
  | var (value : Value)
  /-- A function or a method. -/
  | routine (routine : Routine)

/-- The decimal digits of an integer, after a minus sign if it is negative. -/
def decimal (n : Int64) : String :=
  toString n.toInt

namespace Value

/-- Where some value is wanted, null is one. -/
instance : Inhabited Value := ⟨.null⟩

/-- What a comparison yields: an integer if it holds and null if not. -/
def ofBool (holds : Bool) : Value :=
  if holds then .int 0 else .null

/-- Whether a conditional takes its first branch: every value but null does. -/
def isTruthy : Value → Bool
  | null => false
  | _ => true

/-- Whether a loop goes round once more: only integers make it. -/
def continuesLoop : Value → Bool
  | int _ => true
  | _ => false

/-- Whether the value is null. -/
def isNull : Value → Bool
  | null => true
  | _ => false

/-- The word for the value's type. -/
def typeName : Value → String
  | int _ => "int"
  | null => "null"
  | array _ => "array"
  | object _ => "object"

/-- The integer, or the complaint that `what` is none. -/
def expectInt (what : String) : Value → Except Fault Int64
  | int n => .ok n
  | other => .error (.wrongType what "int" other.typeName)

end Value

end SlotLang
