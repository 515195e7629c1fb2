import SlotLang.Decimal.Binary64

/-!
# Scaling by powers of ten

Multiplication and division of binary64 numbers, and with them the scaling of a natural number by a
power of ten in rounded steps: the number, the power and the result are each rounded. For small
numbers and powers the first two are exact, and the result is then the nearest one.
-/

namespace SlotLang.Decimal

namespace Binary64

/-- The numerator of a number over `denominator`. -/
def numerator (x : Binary64) : Nat :=
  x.mantissa * Nat.pow 2 x.exponent.toNat

/-- A power of two that makes the number whole. -/
def denominator (x : Binary64) : Nat :=
  Nat.pow 2 (-x.exponent).toNat

/-- The rounded product, unless it is too large. -/
def mul (x y : Binary64) : Option Binary64 :=
  nearestBinary (x.numerator * y.numerator) (x.denominator * y.denominator)

/-- The rounded quotient of a number and a positive one, unless it is too large. -/
def div (x y : Binary64) : Option Binary64 :=
  nearestBinary (x.numerator * y.denominator) (x.denominator * y.numerator)

end Binary64

/-- The greatest power of ten within the range of the format. -/
def greatestPower : Nat := 308

/-- Divide by a power of ten. Powers out of range are taken off in steps of the greatest one within
it, until nothing is left of the number. -/
def divByPower (x : Binary64) (power : Nat) : Option Binary64 :=
  if power ≤ greatestPower then (toBinary64 1 power).bind x.div
  else if x.mantissa = 0 then some x
  else do
    let reduced ← (toBinary64 1 greatestPower).bind x.div
    divByPower reduced (power - greatestPower)
termination_by power
decreasing_by simp only [greatestPower] at *; omega

/-- Multiply with a power of ten. There is none out of range, except that zero stays zero. -/
def mulByPower (x : Binary64) (power : Nat) : Option Binary64 :=
  if x.mantissa = 0 then some x else (toBinary64 1 power).bind x.mul

/-- The number `digits * 10 ^ exponent` in rounded steps, unless one of them is too large. -/
def scaleByTen (digits : Nat) (exponent : Int) : Option Binary64 := do
  let x ← nearestBinary digits 1
  if exponent < 0 then divByPower x exponent.natAbs else mulByPower x exponent.natAbs

end SlotLang.Decimal
