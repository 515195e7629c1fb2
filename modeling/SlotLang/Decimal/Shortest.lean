import SlotLang.Decimal.Binary64

/-!
# The shortest decimal that reads back

A binary64 number is shown with the fewest decimal digits that round to it, and of the decimals with
so few digits by the one nearest to it. The numbers that round to `m * 2 ^ q` form an interval whose
ends belong to it exactly if `m` is even. For one digit, two digits and so on, the two neighbours of
the number on the grid of that many digits are tried; the first grid with a hit decides. Where both
neighbours are hits and equally near, the format says which of them is shown.
-/

namespace SlotLang.Decimal

/-- Which of two equally near neighbours is shown. -/
inductive Tie where
  /-- The one whose last digit is even. -/
  | toEven
  /-- The greater one. -/
  | up
  deriving DecidableEq

/-- Whether the lower of two equally near neighbours is shown. -/
def Tie.takesLower (tie : Tie) (lower : Nat) : Bool :=
  match tie with
  | toEven => lower % 2 == 0
  | up => false

/-- A decimal number, `digits * 10 ^ exponent`. -/
structure Scientific where
  /-- The digits, read as one number. -/
  digits : Nat
  /-- The power of ten of the last digit. -/
  exponent : Int
  deriving DecidableEq

/-- The numbers that round to a given one: numerators of the lower end, of the number itself and of
the upper end over one denominator, and whether the ends belong to them. -/
structure Rounding where
  lower : Nat
  value : Nat
  upper : Nat
  denominator : Nat
  closed : Bool

/-- What rounds to a positive number. Below a power of two the numbers lie twice as close, so the
lower end is nearer there. -/
def Binary64.rounding (x : Binary64) : Rounding :=
  let atPowerOfTwo := x.mantissa == Nat.pow 2 52 && x.exponent != -1074
  let scale := Nat.pow 2 (x.exponent - 2).toNat
  { lower := (4 * x.mantissa - if atPowerOfTwo then 1 else 2) * scale
    value := 4 * x.mantissa * scale
    upper := (4 * x.mantissa + 2) * scale
    denominator := Nat.pow 2 (2 - x.exponent).toNat
    closed := x.mantissa % 2 == 0 }

/-- Whether `c * 10 ^ p` rounds to the number. -/
def Rounding.accepts (r : Rounding) (p : Int) (c : Nat) : Bool :=
  let scaled := c * Nat.pow 10 p.toNat * r.denominator
  let shift := Nat.pow 10 (-p).toNat
  if r.closed then r.lower * shift ≤ scaled && scaled ≤ r.upper * shift
  else r.lower * shift < scaled && scaled < r.upper * shift

/-- How many decimal digits a number has. -/
def digitCount (n : Nat) : Nat :=
  (Nat.toDigits 10 n).length

/-- The exponent of the highest power of ten that is at most `n / d`, for positive numbers. -/
def log10Div (n d : Nat) : Int :=
  if d ≤ n then (digitCount (n / d) : Int) - 1
  else
    let places := digitCount (d / n)
    if d ≤ n * Nat.pow 10 (places - 1) then 1 - (places : Int) else -(places : Int)

/-- Of the number's two neighbours on the grid `10 ^ p`, the nearer one that rounds to it, and the
one that `tie` says if they are equally near. -/
def Rounding.onGrid (r : Rounding) (tie : Tie) (p : Int) : Option Nat :=
  let unit := Nat.pow 10 p.toNat * r.denominator
  let scaled := r.value * Nat.pow 10 (-p).toNat
  let floor := scaled / unit
  let twice := 2 * (scaled % unit)
  let lowerFirst := twice < unit || (twice == unit && tie.takesLower floor)
  let first := if lowerFirst then floor else floor + 1
  let second := if lowerFirst then floor + 1 else floor
  if r.accepts p first then some first
  else if r.accepts p second then some second
  else none

/-- Try grids of ever more digits, at most `fuel` of them. -/
def Rounding.search (r : Rounding) (tie : Tie) : Nat → Int → Scientific
  | 0, p => ⟨r.value * Nat.pow 10 (-p).toNat / (Nat.pow 10 p.toNat * r.denominator), p⟩
  | fuel + 1, p =>
    match r.onGrid tie p with
    | some digits => ⟨digits, p⟩
    | none => r.search tie fuel (p - 1)

/-- The shortest decimal that rounds to a number. Seventeen digits always suffice; the first grid
tried is one coarser than one digit, where the next power of ten above the number lies. -/
def shortest (tie : Tie) (x : Binary64) : Scientific :=
  if x.mantissa = 0 then ⟨0, 0⟩
  else
    let r := x.rounding
    r.search tie 18 (log10Div r.value r.denominator + 1)

end SlotLang.Decimal
