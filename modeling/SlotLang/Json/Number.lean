import SlotLang.Decimal.Scale
import SlotLang.Json.Chars

/-!
# Numbers of a JSON text

A number is an optional minus sign, digits without a leading zero, an optional fraction and an
optional exponent. A whole number that fits in 64 bits is kept exactly; every other number, minus
zero among them, is a real one.

A real number is read in two steps, each of which rounds. Its leading digits, as many as fit in 64
bits, give a first number, and that is multiplied with or divided by a power of ten. The result can
lie beside the number nearest to the text.
-/

namespace SlotLang.Json

open Text Decimal

/-- Whether a character is a decimal digit. -/
def isDigit (c : Char) : Bool :=
  '0' ≤ c && c ≤ '9'

/-- Whether a text goes on with a digit. -/
def startsWithDigit : List Char → Bool
  | c :: _ => isDigit c
  | [] => false

/-- Read the sign of a number: whether it is negative. -/
def readMinus : List Char → Bool × List Char
  | '-' :: rest => (true, rest)
  | rest => (false, rest)

/-- Read the digits before the point. -/
def readWhole : List Char → Except Failure (List Char × List Char)
  | [] => refuse .endOfValue []
  | c :: rest =>
    if !isDigit c then refuseNext .invalidNumber (c :: rest)
    else if c = '0' then
      if startsWithDigit rest then refuseNext .invalidNumber rest else .ok ([c], rest)
    else .ok ((c :: rest).takeWhile isDigit, (c :: rest).dropWhile isDigit)

/-- Read the digits after the point, if there is a point. -/
def readFraction : List Char → Except Failure (Option (List Char) × List Char)
  | '.' :: rest =>
    if startsWithDigit rest then .ok (some (rest.takeWhile isDigit), rest.dropWhile isDigit)
    else if rest.isEmpty then refuseNext .endOfValue rest
    else refuseNext .invalidNumber rest
  | rest => .ok (none, rest)

/-- The greatest exponent that is added up. -/
def exponentLimit : Nat := 2147483647

/-- Add up the digits of an exponent, until it is past the limit. -/
def readExponentDigits : Nat → List Char → Option Nat × List Char
  | sum, [] => (some sum, [])
  | sum, c :: rest =>
    if isDigit c then
      let next := 10 * sum + (c.toNat - '0'.toNat)
      if exponentLimit < next then (none, rest) else readExponentDigits next rest
    else (some sum, c :: rest)

/-- An exponent as it was read. -/
inductive Exponent where
  /-- There is none. -/
  | absent
  /-- An exponent within the limit. -/
  | within (e : Int)
  /-- A magnitude past the limit. -/
  | beyond (negative : Bool)
  deriving DecidableEq

/-- Read the sign of an exponent: whether it is negative. -/
def readSign : List Char → Bool × List Char
  | '-' :: rest => (true, rest)
  | '+' :: rest => (false, rest)
  | rest => (false, rest)

/-- Read an exponent after its mark. -/
def readExponentValue (text : List Char) : Except Failure (Exponent × List Char) :=
  let (negative, rest) := readSign text
  match rest with
  | [] => refuse .endOfValue []
  | c :: rest =>
    if !isDigit c then refuseNext .invalidNumber (c :: rest)
    else
      match readExponentDigits (c.toNat - '0'.toNat) rest with
      | (some sum, rest) => .ok (.within (if negative then -(sum : Int) else sum), rest)
      | (none, rest) => .ok (.beyond negative, rest)

/-- Read an exponent, if there is one. -/
def readExponent : List Char → Except Failure (Exponent × List Char)
  | 'e' :: rest => readExponentValue rest
  | 'E' :: rest => readExponentValue rest
  | rest => .ok (.absent, rest)

/-- The leading digits of a number. -/
structure Significand where
  /-- The digits that were kept, read as one number. -/
  value : Nat
  /-- The power of ten of the last digit that was kept. -/
  exponent : Int
  deriving DecidableEq

namespace Significand

/-- Append digits to a number as long as it stays below `2 ^ 64`: the number, and the digits from
the first on that does not fit. -/
def gather : Nat → List Char → Nat × List Char
  | value, [] => (value, [])
  | value, c :: rest =>
    let next := 10 * value + (c.toNat - '0'.toNat)
    if next < Nat.pow 2 64 then gather next rest else (value, c :: rest)

/-- The significand of the digits before and after the point. A digit before the point that does not
fit still counts as a place; one after the point is lost. -/
def ofDigits (whole fraction : List Char) : Significand :=
  let (value, lost) := gather 0 whole
  let (value, cut) := gather value fraction
  ⟨value, (lost.length : Int) - ((fraction.length : Int) - cut.length)⟩

/-- The integer of the digits of a whole number, if none was lost and it fits in 64 bits, signed or
not. Minus zero is no integer. -/
def integer? (negative : Bool) (significand : Significand) : Option Int :=
  let magnitude := significand.value
  if significand.exponent ≠ 0 then none
  else if negative then
    if 0 < magnitude ∧ magnitude ≤ Nat.pow 2 63 then some (-(magnitude : Int)) else none
  else some magnitude

end Significand

/-- The real number of a significand and a power of ten, or the refusal of one that is too large. -/
def rounded (negative : Bool) (significand : Significand) (exponent : Int) (rest : List Char) :
    Except Failure (Number × List Char) :=
  match scaleByTen significand.value (significand.exponent + exponent) with
  | some magnitude => .ok (.real negative magnitude, rest)
  | none => refuse .numberOutOfRange rest

/-- Read a number. -/
def readNumber (text : List Char) : Except Failure (Number × List Char) := do
  let (negative, text) := readMinus text
  let (whole, rest) ← readWhole text
  let (fraction, rest) ← readFraction rest
  let (exponent, rest) ← readExponent rest
  let significand := Significand.ofDigits whole (fraction.getD [])
  match exponent with
  | .within e => rounded negative significand e rest
  | .beyond small =>
    if significand.value ≠ 0 ∧ !small then refuse .numberOutOfRange rest
    else .ok (.real negative .zero, rest.dropWhile isDigit)
  | .absent =>
    if fraction.isSome then rounded negative significand 0 rest
    else
      match significand.integer? negative with
      | some n => .ok (.integer n, rest)
      | none => rounded negative significand 0 rest

/-- Pass over the digits before the point. The end of the text is a misspelling like any other. -/
def skipWhole : List Char → Except Failure (List Char)
  | [] => refuse .invalidNumber []
  | c :: rest =>
    if !isDigit c then refuseNext .invalidNumber (c :: rest)
    else if c = '0' then
      if startsWithDigit rest then refuseNext .invalidNumber rest else .ok rest
    else .ok (rest.dropWhile isDigit)

/-- Pass over a fraction, if there is one. -/
def skipFraction : List Char → Except Failure (List Char)
  | '.' :: rest =>
    if startsWithDigit rest then .ok (rest.dropWhile isDigit)
    else refuseNext .invalidNumber rest
  | rest => .ok rest

/-- Pass over an exponent, if there is one. -/
def skipExponent : List Char → Except Failure (List Char)
  | [] => .ok []
  | mark :: after =>
    if mark = 'e' ∨ mark = 'E' then
      match (readSign after).2 with
      | c :: rest =>
        if isDigit c then .ok (rest.dropWhile isDigit) else refuseNext .invalidNumber (c :: rest)
      | [] => refuse .invalidNumber []
    else .ok (mark :: after)

/-- Pass over a number. -/
def skipNumber (text : List Char) : Except Failure (List Char) := do
  let rest ← skipWhole (readMinus text).2
  skipExponent (← skipFraction rest)

end SlotLang.Json
