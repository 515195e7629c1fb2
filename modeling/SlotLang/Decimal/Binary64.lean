/-!
# Rounding decimals to binary64

A decimal number `digits * 10 ^ exponent` is rounded to the nearest number with a mantissa of 53
bits, ties to the even mantissa. Everything is computed on natural numbers, exactly.
-/

namespace SlotLang.Decimal

/-- A finite number that is not negative, `mantissa * 2 ^ exponent`. -/
structure Binary64 where
  /-- At most 53 bits, and all 53 unless the exponent is the least one. -/
  mantissa : Nat
  /-- From -1074 to 971. -/
  exponent : Int
  deriving DecidableEq

namespace Binary64

/-- Zero. -/
def zero : Binary64 :=
  ⟨0, -1074⟩

end Binary64

/-- The natural number nearest to `n / d`, the even one of two equally near. -/
def roundDiv (n d : Nat) : Nat :=
  let floor := n / d
  let twice := 2 * (n % d)
  if d < twice || (twice == d && floor % 2 == 1) then floor + 1 else floor

/-- The exponent of the highest power of two that is at most `n / d`, for positive numbers. -/
def log2Div (n d : Nat) : Int :=
  let guess : Int := (Nat.log2 n : Int) - Nat.log2 d
  if d * Nat.pow 2 guess.toNat ≤ n * Nat.pow 2 (-guess).toNat then guess else guess - 1

/-- The number nearest to `n / d`, unless it is too large. -/
def nearestBinary (n d : Nat) : Option Binary64 :=
  if n = 0 then some .zero
  else
    let exponent := max (log2Div n d - 52) (-1074)
    let mantissa :=
      roundDiv (n * Nat.pow 2 (-exponent).toNat) (d * Nat.pow 2 exponent.toNat)
    let rounded : Binary64 :=
      if mantissa = Nat.pow 2 53 then ⟨Nat.pow 2 52, exponent + 1⟩ else ⟨mantissa, exponent⟩
    if 971 < rounded.exponent then none else some rounded

/-- The number nearest to `digits * 10 ^ exponent`, unless it is too large. A number that has digits
is out of range above `10 ^ 400`, and nothing is left of it below `10 ^ (-400)`; since it is less
than `10 ^ (log2 digits + 1)`, the exponent alone tells that a number lies so far out. -/
def toBinary64 (digits : Nat) (exponent : Int) : Option Binary64 :=
  if digits = 0 then some .zero
  else if 400 < exponent then none
  else if exponent < -(401 + (Nat.log2 digits : Int)) then some .zero
  else nearestBinary (digits * Nat.pow 10 exponent.toNat) (Nat.pow 10 (-exponent).toNat)

end SlotLang.Decimal
