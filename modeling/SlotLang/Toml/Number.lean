import SlotLang.Decimal.Layout
import SlotLang.Toml.Lexical

/-!
# Numbers and dates of a TOML text

An integer is decimal with an optional sign, or hexadecimal, octal or binary without one, and must
fit in 64 bits. A number with a fraction or an exponent is rounded. A date or a time of day is only
checked for its form and range, since no setting takes one.
-/

namespace SlotLang.Toml

open Decimal

/-! ## Digits -/

/-- Whether a character is a decimal digit. -/
def isDigit (c : Char) : Bool :=
  '0' ≤ c && c ≤ '9'

/-- Read digits of a kind, with single underscores between them. -/
def readDigits? (isKind : Char → Bool) : List Char → Option (List Char × List Char)
  | [] => none
  | [c] => if isKind c then some ([c], []) else none
  | c :: next :: rest =>
    if !isKind c then none
    else if isKind next then
      (readDigits? isKind (next :: rest)).map fun (digits, rest) => (c :: digits, rest)
    else if next = '_' then
      (readDigits? isKind rest).map fun (digits, rest) => (c :: digits, rest)
    else some ([c], next :: rest)

/-- The number that digits spell in a base. -/
def digitsValue (base : Nat) (digits : List Char) : Nat :=
  digits.foldl (fun sum c => base * sum + (hexValue? c).getD 0) 0

/-- Read a sign: whether it is there, and whether it is minus. -/
def readSign : List Char → (Bool × Bool) × List Char
  | '-' :: rest => ((true, true), rest)
  | '+' :: rest => ((true, false), rest)
  | rest => ((false, false), rest)

/-! ## Integers -/

/-- An integer that fits in 64 bits. -/
def fitting? (negative : Bool) (magnitude : Nat) : Option Int :=
  if negative then if magnitude ≤ Nat.pow 2 63 then some (-(magnitude : Int)) else none
  else if magnitude < Nat.pow 2 63 then some magnitude else none

/-- Read digits after the mark of a base. -/
def readBased? (base : Nat) (isKind : Char → Bool) (text : List Char) :
    Option (Int × List Char) := do
  let (digits, rest) ← readDigits? isKind text
  some (← fitting? false (digitsValue base digits), rest)

/-- Read decimal digits that do not start with a needless zero. -/
def readDecimal? (text : List Char) : Option (List Char × List Char) :=
  match text with
  | '0' :: rest =>
    match rest with
    | c :: _ => if isDigit c || c == '_' then none else some (['0'], rest)
    | [] => some (['0'], rest)
  | _ => readDigits? isDigit text

/-- Read an integer. -/
def readInteger? (text : List Char) : Option (Int × List Char) :=
  match text with
  | '0' :: 'x' :: rest => readBased? 16 (fun c => (hexValue? c).isSome) rest
  | '0' :: 'o' :: rest => readBased? 8 (fun c => '0' ≤ c && c ≤ '7') rest
  | '0' :: 'b' :: rest => readBased? 2 (fun c => c == '0' || c == '1') rest
  | _ => do
    let ((_, negative), rest) := readSign text
    let (digits, rest) ← readDecimal? rest
    some (← fitting? negative (digitsValue 10 digits), rest)

/-! ## Numbers with a fraction or an exponent -/

/-- A number that is not an integer. -/
inductive Real where
  /-- A finite number. -/
  | finite (negative : Bool) (magnitude : Binary64)
  /-- An infinite one. -/
  | infinite (negative : Bool)
  /-- No number. -/
  | nan
  deriving DecidableEq

/-- The number as text. -/
def Real.render : Real → String
  | finite negative magnitude => Decimal.render .positional negative magnitude
  | infinite true => "-inf"
  | infinite false => "inf"
  | nan => "NaN"

/-- Read a fraction. -/
def readFraction? : List Char → Option (List Char × List Char)
  | '.' :: rest => readDigits? isDigit rest
  | _ => none

/-- Read an exponent. -/
def readExponent? : List Char → Option (Int × List Char)
  | mark :: rest =>
    if mark = 'e' ∨ mark = 'E' then do
      let ((_, negative), rest) := readSign rest
      let (digits, rest) ← readDigits? isDigit rest
      let magnitude := digitsValue 10 digits
      some (if negative then -(magnitude : Int) else magnitude, rest)
    else none
  | [] => none

/-- The rounded number. One that is too large is refused, or infinite if it is negative. -/
def roundReal? (negative : Bool) (digits : Nat) (exponent : Int) : Option Real :=
  match toBinary64 digits exponent with
  | some magnitude => some (.finite negative magnitude)
  | none => if negative then some (.infinite true) else none

/-- Read a number with a fraction, an exponent or both, or one of the special numbers. -/
def readReal? (text : List Char) : Option (Real × List Char) :=
  let ((_, negative), unsigned) := readSign text
  match unsigned with
  | 'i' :: 'n' :: 'f' :: rest => some (.infinite negative, rest)
  | 'n' :: 'a' :: 'n' :: rest => some (.nan, rest)
  | _ => do
    let (whole, rest) ← readDecimal? unsigned
    match readFraction? rest with
    | some (fraction, rest) =>
      let digits := digitsValue 10 (whole ++ fraction)
      let shift : Int := -(fraction.length : Int)
      match rest with
      | 'e' :: _ | 'E' :: _ =>
        let (exponent, rest) ← readExponent? rest
        some (← roundReal? negative digits (shift + exponent), rest)
      | _ => some (← roundReal? negative digits shift, rest)
    | none =>
      let (exponent, rest) ← readExponent? rest
      some (← roundReal? negative (digitsValue 10 whole) exponent, rest)

/-! ## Dates and times -/

/-- Read exactly `count` digits as a number. -/
def readFixed? (count : Nat) (text : List Char) : Option (Nat × List Char) :=
  let digits := text.take count
  if digits.length = count ∧ digits.all isDigit then
    some (digitsValue 10 digits, text.drop count)
  else none

/-- Read one of the given characters. -/
def readOneOf? (wanted : List Char) : List Char → Option (List Char)
  | c :: rest => if wanted.contains c then some rest else none
  | [] => none

/-- Whether a year has 366 days. -/
def isLeapYear (year : Nat) : Bool :=
  year % 4 == 0 && (year % 100 != 0 || year % 400 == 0)

/-- How many days a month has. -/
def daysInMonth (year month : Nat) : Nat :=
  if month = 2 then if isLeapYear year then 29 else 28
  else if month = 4 ∨ month = 6 ∨ month = 9 ∨ month = 11 then 30
  else 31

/-- Read a calendar date. -/
def readDate? (text : List Char) : Option (List Char) := do
  let (year, rest) ← readFixed? 4 text
  let rest ← readOneOf? ['-'] rest
  let (month, rest) ← readFixed? 2 rest
  let rest ← readOneOf? ['-'] rest
  let (day, rest) ← readFixed? 2 rest
  if 1 ≤ month ∧ month ≤ 12 ∧ 1 ≤ day ∧ day ≤ daysInMonth year month then some rest else none

/-- Read the fraction of a second, if there is one. -/
def readSecondFraction? : List Char → Option (List Char)
  | '.' :: rest =>
    match rest with
    | c :: _ => if isDigit c then some (rest.dropWhile isDigit) else none
    | [] => none
  | rest => some rest

/-- Read a time of day. -/
def readTime? (text : List Char) : Option (List Char) := do
  let (hour, rest) ← readFixed? 2 text
  let rest ← readOneOf? [':'] rest
  let (minute, rest) ← readFixed? 2 rest
  let rest ← readOneOf? [':'] rest
  let (second, rest) ← readFixed? 2 rest
  if hour ≤ 23 ∧ minute ≤ 59 ∧ second ≤ 60 then readSecondFraction? rest else none

/-- Read an offset from universal time, if there is one. -/
def readOffset? (text : List Char) : Option (List Char) :=
  match text with
  | 'Z' :: rest | 'z' :: rest => some rest
  | '+' :: rest | '-' :: rest => do
    let (hours, rest) ← readFixed? 2 rest
    let rest ← readOneOf? [':'] rest
    let (minutes, rest) ← readFixed? 2 rest
    if hours ≤ 23 ∧ minutes ≤ 59 then some rest else none
  | rest => some rest

/-- Whether a text starts like a time of day. -/
def startsLikeTime (text : List Char) : Bool :=
  match readFixed? 2 text with
  | some (_, ':' :: _) => true
  | _ => false

/-- Whether a text starts like a date. -/
def startsLikeDate (text : List Char) : Bool :=
  match readFixed? 4 text with
  | some (_, '-' :: _) => true
  | _ => false

/-- Read a date, a time of day, or a date and a time with or without an offset. -/
def readDateTime? (text : List Char) : Option (List Char) :=
  if startsLikeTime text then readTime? text
  else do
    let rest ← readDate? text
    match rest with
    | c :: after =>
      if ['T', 't', ' '].contains c ∧ startsLikeTime after then do
        readOffset? (← readTime? after)
      else some rest
    | [] => some rest

end SlotLang.Toml
