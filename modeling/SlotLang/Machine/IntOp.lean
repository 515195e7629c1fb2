import SlotLang.Machine.Value

/-!
# Operators of integers

Addition, subtraction and multiplication wrap around 64 bits; quotient and remainder go toward zero
and refuse a zero divisor; a comparison yields a value that is null exactly if it fails.
-/

namespace SlotLang

/-- An operator of two integers. -/
inductive IntOp where
  | add
  | sub
  | mul
  | div
  | mod
  | eq
  | lt
  | le
  | gt
  | ge
  deriving DecidableEq

namespace IntOp

/-- The operator that a program names. -/
def ofName? : String → Option IntOp
  | "add" => some add
  | "sub" => some sub
  | "mul" => some mul
  | "div" => some div
  | "mod" => some mod
  | "eq" => some eq
  | "lt" => some lt
  | "le" => some le
  | "gt" => some gt
  | "ge" => some ge
  | _ => none

/-- Apply an operator. -/
def apply (op : IntOp) (x y : Int64) : Except Fault Value :=
  match op with
  | add => .ok (.int (x + y))
  | sub => .ok (.int (x - y))
  | mul => .ok (.int (x * y))
  | div => if y = 0 then .error .divisionByZero else .ok (.int (x / y))
  | mod => if y = 0 then .error .divisionByZero else .ok (.int (x % y))
  | eq => .ok (.ofBool (x = y))
  | lt => .ok (.ofBool (x < y))
  | le => .ok (.ofBool (x ≤ y))
  | gt => .ok (.ofBool (y < x))
  | ge => .ok (.ofBool (y ≤ x))

end IntOp

end SlotLang
