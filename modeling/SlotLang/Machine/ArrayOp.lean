import SlotLang.Machine.Value

/-!
# Operators of arrays

An array is a fixed number of integers. Its operators read its length, read an element and write an
element; an index outside the array is refused and changes nothing.
-/

namespace SlotLang

/-- The elements of an array. -/
abbrev Elements := Array Int64

namespace Elements

/-- Lengths from here on are refused as not allocatable. The bound is this library's own. A vector
of 64-bit integers cannot have `2 ^ 60` elements, since it would take more bytes than addresses
allow; below that it is the allocator that decides, and the memory there is. Half of that is far
more than any allocator grants. -/
def lengthLimit : Nat := Nat.pow 2 59

/-- As many copies of `init` as `length` says. -/
def filled (length : Nat) (init : Int64) : Except Fault Elements :=
  if length < lengthLimit then .ok (Array.replicate length init)
  else .error (.wrongType "array length" "allocatable" (toString length))

/-- As `filled`, for a length that a program computed. -/
def make (length init : Int64) : Except Fault Elements :=
  if length < 0 then .error (.wrongType "array length" "non-negative" (decimal length))
  else filled length.toNatClampNeg init

/-- The element at an index. -/
def read (elements : Elements) (index : Int64) : Except Fault Int64 :=
  if 0 ≤ index then
    match elements[index.toNatClampNeg]? with
    | some n => .ok n
    | none => .error (.indexOutOfBounds index elements.size)
  else .error (.indexOutOfBounds index elements.size)

/-- Whether an index is that of an element. -/
def hasIndex (elements : Elements) (index : Int64) : Bool :=
  0 ≤ index && index.toNatClampNeg < elements.size

/-- The array with another element at an index; an index outside it changes nothing. -/
def write (elements : Elements) (index value : Int64) : Elements :=
  if 0 ≤ index then elements.setIfInBounds index.toNatClampNeg value else elements

/-- The elements between brackets. -/
def render (elements : Elements) : String :=
  "[" ++ ", ".intercalate (elements.toList.map decimal) ++ "]"

end Elements

/-- An operator of an array. -/
inductive ArrayOp where
  | length
  | get
  | set
  deriving DecidableEq

namespace ArrayOp

/-- The operator that a program names. -/
def ofName? : String → Option ArrayOp
  | "length" => some length
  | "get" => some get
  | "set" => some set
  | _ => none

/-- The name of an operator. -/
def name : ArrayOp → String
  | length => "length"
  | get => "get"
  | set => "set"

/-- How many operands an operator takes. -/
def arity : ArrayOp → Nat
  | length => 0
  | get => 1
  | set => 2

/-- What the operand at a position is, for a complaint about its type. -/
def operandName : Nat → String
  | 0 => "array index"
  | _ + 1 => "array element"

/-- The value of an operator, or why it is refused. -/
def value (op : ArrayOp) (elements : Elements) (operands : List Int64) : Except Fault Value :=
  match op, operands with
  | length, [] => .ok (.int (Int64.ofNat elements.size))
  | get, [index] => (elements.read index).map .int
  | set, [index, _] =>
    if elements.hasIndex index then .ok .null
    else .error (.indexOutOfBounds index elements.size)
  | op, operands => .error (.arityMismatch op.name op.arity operands.length)

/-- What an operator that is not refused does to the elements: only `set` changes any. -/
def update (op : ArrayOp) (operands : List Int64) (elements : Elements) : Elements :=
  match op, operands with
  | set, [index, value] => elements.write index value
  | _, _ => elements

end ArrayOp

end SlotLang
