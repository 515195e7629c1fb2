import SlotLang.Decimal.Shortest

/-!
# Writing decimals

How a decimal is laid out: with the point at its place, or with an exponent. A layout says for which
positions of the point the first form is used, and which of two equally near decimals is written.
-/

namespace SlotLang.Decimal

/-- When the point stands at its place, and how a tie is broken. The position of the point is
counted from the first digit: it is 1 for numbers from one to ten and 0 just below one. -/
structure Layout where
  /-- The least position of the point that is written in place; none for no bound. -/
  least : Option Int
  /-- The greatest such position; none for no bound. -/
  greatest : Option Int
  /-- Which of two equally near decimals is written. -/
  tie : Tie

namespace Layout

/-- Always with the point at its place, and ties go up. -/
def positional : Layout :=
  ⟨none, none, .up⟩

/-- With an exponent from ten to the sixteenth on, and below one hundred-thousandth; ties go to the
even digit. -/
def scientific : Layout :=
  ⟨some (-4), some 16, .toEven⟩

/-- Whether a position of the point is written in place. -/
def inPlace (layout : Layout) (point : Int) : Bool :=
  layout.least.all (· ≤ point) && layout.greatest.all (point ≤ ·)

end Layout

/-- The digits with the point at its place, and at least one digit on either side of it. -/
def inPlace (digits : List Char) (point : Int) : List Char :=
  if point ≤ 0 then '0' :: '.' :: (List.replicate (-point).toNat '0' ++ digits)
  else
    let whole := digits.take point.toNat
    let fraction := digits.drop point.toNat
    whole ++ List.replicate (point.toNat - digits.length) '0' ++
      '.' :: (if fraction.isEmpty then ['0'] else fraction)

/-- The first digit, the others after a point, and an exponent with its sign. -/
def withExponent (digits : List Char) (point : Int) : List Char :=
  let exponent := point - 1
  let fraction := digits.drop 1
  digits.take 1 ++ (if fraction.isEmpty then [] else '.' :: fraction) ++
    'e' :: (if exponent < 0 then '-' else '+') :: Nat.toDigits 10 exponent.natAbs

/-- The text of a decimal in a layout. -/
def Scientific.render (layout : Layout) (number : Scientific) : List Char :=
  if number.digits = 0 then ['0', '.', '0']
  else
    let digits := Nat.toDigits 10 number.digits
    let point := (digits.length : Int) + number.exponent
    if layout.inPlace point then Decimal.inPlace digits point else withExponent digits point

/-- The text of a number in a layout. -/
def render (layout : Layout) (negative : Bool) (x : Binary64) : String :=
  let magnitude := (shortest layout.tie x).render layout
  String.ofList (if negative then '-' :: magnitude else magnitude)

end SlotLang.Decimal
