import SlotLang.Json.Failure

/-!
# Strings, words and blanks of a JSON text

Reading the smallest parts of a text, and writing a string. The readers of strings and of escapes
work within a bound on the number of characters; the length of the text is always enough.
-/

namespace SlotLang.Json

open Text

/-! ## Blanks and words -/

/-- Whether a character may stand between two tokens. -/
def isBlank (c : Char) : Bool :=
  c == ' ' || c == '\n' || c == '\t' || c == '\r'

/-- The text from the next token on. -/
def skipBlanks (text : List Char) : List Char :=
  text.dropWhile isBlank

/-- Read the given characters. -/
def readWord : List Char → List Char → Except Failure (List Char)
  | [], rest => .ok rest
  | _ :: _, [] => refuse .endOfValue []
  | want :: word, c :: rest =>
    if c = want then readWord word rest else refuseNext .expectedIdent (c :: rest)

/-- Read the colon after a key. -/
def readColon (text : List Char) : Except Failure (List Char) :=
  match skipBlanks text with
  | ':' :: rest => .ok rest
  | [] => refuseNext .endOfObject []
  | rest => refuseNext .expectedColon rest

/-! ## Reading strings -/

/-- The value of a hexadecimal digit. -/
def hexValue? (c : Char) : Option Nat :=
  if '0' ≤ c ∧ c ≤ '9' then some (c.toNat - '0'.toNat)
  else if 'a' ≤ c ∧ c ≤ 'f' then some (c.toNat - 'a'.toNat + 10)
  else if 'A' ≤ c ∧ c ≤ 'F' then some (c.toNat - 'A'.toNat + 10)
  else none

/-- The number that four hexadecimal digits spell. -/
def hexNumber? (digits : List Char) : Option Nat :=
  digits.foldl (fun sum? c => do return 16 * (← sum?) + (← hexValue? c)) (some 0)

/-- Read the four digits of an escape. Fewer than four bytes count as an end of the text, and four
bytes that are no digits are all read before they are refused. -/
def readHex (text : List Char) : Except Failure (Nat × List Char) :=
  if byteLength (text.take 4) < 4 then refuse .endOfString []
  else
    match hexNumber? (text.take 4) with
    | some n => .ok (n, text.drop 4)
    | none => .error (.located .invalidEscape (byteLength text - 4))

/-- What a letter after a backslash stands for. -/
def shortEscape? : Char → Option Char
  | '"' => some '"'
  | '\\' => some '\\'
  | '/' => some '/'
  | 'b' => some '\x08'
  | 'f' => some '\x0c'
  | 'n' => some '\n'
  | 'r' => some '\r'
  | 't' => some '\t'
  | _ => none

/-- Whether a code unit is the first half of a pair. -/
def isHighSurrogate (n : Nat) : Bool :=
  0xd800 ≤ n && n ≤ 0xdbff

/-- Whether a code unit is the second half of a pair. -/
def isLowSurrogate (n : Nat) : Bool :=
  0xdc00 ≤ n && n ≤ 0xdfff

/-- Read the second half of a pair and join it to the first. -/
def readLowSurrogate (high : Nat) : List Char → Except Failure (Char × List Char)
  | [] => refuse .endOfString []
  | c :: rest =>
    if c ≠ '\\' then refuseNext .truncatedEscape (c :: rest)
    else
      match rest with
      | [] => refuse .endOfString []
      | c :: rest =>
        if c ≠ 'u' then refuseNext .truncatedEscape (c :: rest)
        else do
          let (low, rest) ← readHex rest
          if isLowSurrogate low then
            .ok (Char.ofNat (0x10000 + (high - 0xd800) * 0x400 + (low - 0xdc00)), rest)
          else refuse .loneSurrogate rest

/-- Read an escape after its `u`. -/
def readUnicode (text : List Char) : Except Failure (Char × List Char) := do
  let (n, rest) ← readHex text
  if isLowSurrogate n then refuse .loneSurrogate rest
  else if isHighSurrogate n then readLowSurrogate n rest
  else .ok (Char.ofNat n, rest)

/-- Read an escape after its backslash. -/
def readEscape : List Char → Except Failure (Char × List Char)
  | [] => refuse .endOfString []
  | c :: rest =>
    if c = 'u' then readUnicode rest
    else
      match shortEscape? c with
      | some meant => .ok (meant, rest)
      | none => refuseNext .invalidEscape (c :: rest)

/-- Read the characters of a string after its opening quote. -/
def readChars : Nat → List Char → Except Failure (List Char × List Char)
  | 0, text => refuse .unfinished text
  | _ + 1, [] => refuse .endOfString []
  | bound + 1, c :: rest =>
    if c = '"' then .ok ([], rest)
    else if c.toNat < 0x20 then refuse .controlCharacter rest
    else if c = '\\' then do
      let (meant, rest) ← readEscape rest
      let (others, rest) ← readChars bound rest
      .ok (meant :: others, rest)
    else do
      let (others, rest) ← readChars bound rest
      .ok (c :: others, rest)

/-- Read a string after its opening quote. -/
def readString (bound : Nat) (text : List Char) : Except Failure (String × List Char) := do
  let (chars, rest) ← readChars bound text
  .ok (String.ofList chars, rest)

/-- Pass over a string after its opening quote, without looking at what its escapes mean. -/
def skipString : Nat → List Char → Except Failure (List Char)
  | 0, text => refuse .unfinished text
  | _ + 1, [] => refuse .endOfString []
  | bound + 1, c :: rest =>
    if c = '"' then .ok rest
    else if c.toNat < 0x20 then refuse .controlCharacter (c :: rest)
    else if c = '\\' then
      match rest with
      | [] => refuse .endOfString []
      | 'u' :: rest => do
        let (_, rest) ← readHex rest
        skipString bound rest
      | c :: rest =>
        if (shortEscape? c).isSome then skipString bound rest
        else refuseNext .invalidEscape (c :: rest)
    else skipString bound rest

/-! ## Writing strings -/

/-- How a character is written inside a string: raw unless it is a quote, a backslash or a
control character. -/
def writeChar (c : Char) : List Char :=
  match c with
  | '"' => ['\\', '"']
  | '\\' => ['\\', '\\']
  | '\x08' => ['\\', 'b']
  | '\x0c' => ['\\', 'f']
  | '\n' => ['\\', 'n']
  | '\r' => ['\\', 'r']
  | '\t' => ['\\', 't']
  | c =>
    if c.toNat < 0x20 then
      ['\\', 'u', '0', '0', Nat.digitChar (c.toNat / 16), Nat.digitChar (c.toNat % 16)]
    else [c]

/-- A string with its quotes. -/
def writeString (text : String) : List Char :=
  '"' :: (text.toList.flatMap writeChar ++ ['"'])

end SlotLang.Json
