import SlotLang.Json.Number

/-!
# Passing over a value

A member that nobody asked for may hold any JSON value. It is passed over and only its form is
checked.
-/

namespace SlotLang.Json

/-- Pass over the items of a list and its closing bracket, given how to pass over one item. -/
def skipItems (skip : List Char → Except Failure (List Char)) :
    Nat → Bool → List Char → Except Failure (List Char)
  | 0, _, text => refuse .unfinished text
  | bound + 1, first, text =>
    match skipBlanks text with
    | [] => refuseNext .endOfList []
    | ']' :: rest => .ok rest
    | c :: rest =>
      if first then do skipItems skip bound false (← skip (c :: rest))
      else if c = ',' then do skipItems skip bound false (← skip rest)
      else refuseNext .expectedCommaOrBracket (c :: rest)

/-- Pass over one member of an object, from its key on. -/
def skipMember (skip : List Char → Except Failure (List Char)) (bound : Nat)
    (text : List Char) : Except Failure (List Char) :=
  match skipBlanks text with
  | [] => refuseNext .endOfObject []
  | '"' :: rest => do skip (← readColon (← skipString bound rest))
  | rest => refuseNext .keyNotString rest

/-- Pass over the members of an object and its closing brace. -/
def skipMembers (skip : List Char → Except Failure (List Char)) :
    Nat → Bool → List Char → Except Failure (List Char)
  | 0, _, text => refuse .unfinished text
  | bound + 1, first, text =>
    match skipBlanks text with
    | [] => refuseNext .endOfObject []
    | '\x7d' :: rest => .ok rest
    | c :: rest =>
      if first then do skipMembers skip bound false (← skipMember skip bound (c :: rest))
      else if c = ',' then do skipMembers skip bound false (← skipMember skip bound rest)
      else refuseNext .expectedCommaOrBrace (c :: rest)

/-- Pass over any value. -/
def skipValue : Nat → List Char → Except Failure (List Char)
  | 0, text => refuse .unfinished text
  | bound + 1, text =>
    match skipBlanks text with
    | [] => refuseNext .endOfValue []
    | 'n' :: rest => readWord ['u', 'l', 'l'] rest
    | 't' :: rest => readWord ['r', 'u', 'e'] rest
    | 'f' :: rest => readWord ['a', 'l', 's', 'e'] rest
    | '"' :: rest => skipString bound rest
    | '[' :: rest => skipItems (skipValue bound) bound true rest
    | '\x7b' :: rest => skipMembers (skipValue bound) bound true rest
    | c :: rest =>
      if c = '-' ∨ isDigit c then skipNumber (c :: rest)
      else refuseNext .expectedValue (c :: rest)

end SlotLang.Json
