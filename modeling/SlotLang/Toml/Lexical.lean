/-!
# Blanks, comments, strings and keys of a TOML text

The smallest parts of a settings text. A reader takes a text from its front and hands back the rest,
or none if the text is not of the form. A place in the text is what is left of it there.
-/

namespace SlotLang.Toml

/-! ## Blanks, line ends and comments -/

/-- The text without the blanks and tabs at its start. -/
def skipBlanks (text : List Char) : List Char :=
  text.dropWhile fun c => c == ' ' || c == '\t'

/-- Whether a character may stand in a comment or, unescaped, in a string: anything but the controls
other than the tab. -/
def isPlain (c : Char) : Bool :=
  c == '\t' || (0x20 ≤ c.toNat && c.toNat != 0x7f)

/-- Read a line end. -/
def readNewline? : List Char → Option (List Char)
  | '\n' :: rest => some rest
  | '\r' :: '\n' :: rest => some rest
  | _ => none

/-- The text after a comment, if one stands here. -/
def skipComment : List Char → List Char
  | '#' :: rest => rest.dropWhile isPlain
  | text => text

/-- Read what may follow on a line: blanks, a comment, and the line's or the text's end. -/
def readLineEnd? (text : List Char) : Option (List Char) :=
  match skipComment (skipBlanks text) with
  | [] => some []
  | rest => readNewline? rest

/-- The text after blanks, comments and line ends, at most `bound` of each. -/
def skipLines : Nat → List Char → List Char
  | 0, text => text
  | bound + 1, text =>
    let rest := skipComment (skipBlanks text)
    match readNewline? rest with
    | some rest => skipLines bound rest
    | none => rest

/-! ## Strings -/

/-- The value of a hexadecimal digit. -/
def hexValue? (c : Char) : Option Nat :=
  if '0' ≤ c ∧ c ≤ '9' then some (c.toNat - '0'.toNat)
  else if 'a' ≤ c ∧ c ≤ 'f' then some (c.toNat - 'a'.toNat + 10)
  else if 'A' ≤ c ∧ c ≤ 'F' then some (c.toNat - 'A'.toNat + 10)
  else none

/-- Read a character given by its number in `count` hexadecimal digits. -/
def readScalar? (count : Nat) (text : List Char) : Option (Char × List Char) := do
  let digits ← (text.take count).mapM hexValue?
  let n := digits.foldl (fun sum digit => 16 * sum + digit) 0
  if digits.length = count ∧ n.isValidChar then some (Char.ofNat n, text.drop count) else none

/-- Read an escape after its backslash. -/
def readEscape? : List Char → Option (Char × List Char)
  | 'b' :: rest => some ('\x08', rest)
  | 't' :: rest => some ('\t', rest)
  | 'n' :: rest => some ('\n', rest)
  | 'f' :: rest => some ('\x0c', rest)
  | 'r' :: rest => some ('\r', rest)
  | '"' :: rest => some ('"', rest)
  | '\\' :: rest => some ('\\', rest)
  | 'u' :: rest => readScalar? 4 rest
  | 'U' :: rest => readScalar? 8 rest
  | _ => none

/-- Read a string on one line after its opening quote. -/
def readBasic? : Nat → List Char → Option (List Char × List Char)
  | 0, _ => none
  | _ + 1, [] => none
  | bound + 1, c :: rest =>
    if c = '"' then some ([], rest)
    else if c = '\\' then do
      let (meant, rest) ← readEscape? rest
      let (others, rest) ← readBasic? bound rest
      some (meant :: others, rest)
    else if isPlain c then do
      let (others, rest) ← readBasic? bound rest
      some (c :: others, rest)
    else none

/-- Read a string on one line, without escapes, after its opening apostrophe. -/
def readLiteral? (text : List Char) : Option (List Char × List Char) :=
  let chars := text.takeWhile fun c => isPlain c && c != '\''
  match text.drop chars.length with
  | '\'' :: rest => some (chars, rest)
  | _ => none

/-- The text after the blanks and line ends that a backslash at the end of a line joins over. -/
def skipJoined : List Char → List Char
  | ' ' :: rest => skipJoined rest
  | '\t' :: rest => skipJoined rest
  | '\n' :: rest => skipJoined rest
  | '\r' :: '\n' :: rest => skipJoined rest
  | rest => rest

/-- Whether only blanks stand between here and the line's end. -/
def atLineEnd (text : List Char) : Bool :=
  (readNewline? (skipBlanks text)).isSome

/-- How many of the given character the text starts with. -/
def runLength (quote : Char) (text : List Char) : Nat :=
  (text.takeWhile (· == quote)).length

/-- Read a string over several lines after its opening. Up to two quotes may stand inside it and
just before its closing three. -/
def readLong? (quote : Char) (escapes : Bool) :
    Nat → List Char → Option (List Char × List Char)
  | 0, _ => none
  | _ + 1, [] => none
  | bound + 1, c :: rest =>
    if c = quote then
      let quotes := runLength quote (c :: rest)
      if 3 ≤ quotes then
        if quotes ≤ 5 then
          some (List.replicate (quotes - 3) quote, (c :: rest).drop quotes)
        else none
      else do
        let (others, rest) ← readLong? quote escapes bound ((c :: rest).drop quotes)
        some (List.replicate quotes quote ++ others, rest)
    else if escapes ∧ c = '\\' then
      if atLineEnd rest then readLong? quote escapes bound (skipJoined rest)
      else do
        let (meant, rest) ← readEscape? rest
        let (others, rest) ← readLong? quote escapes bound rest
        some (meant :: others, rest)
    else
      match readNewline? (c :: rest) with
      | some rest => do
        let (others, rest) ← readLong? quote escapes bound rest
        some ('\n' :: others, rest)
      | none =>
        if isPlain c then do
          let (others, rest) ← readLong? quote escapes bound rest
          some (c :: others, rest)
        else none

/-- The text after a line end, if it starts with one. -/
def dropNewline (text : List Char) : List Char :=
  (readNewline? text).getD text

/-- Read a string of any of the four forms. -/
def readString? (bound : Nat) : List Char → Option (List Char × List Char)
  | '"' :: '"' :: '"' :: rest => readLong? '"' true bound (dropNewline rest)
  | '\'' :: '\'' :: '\'' :: rest => readLong? '\'' false bound (dropNewline rest)
  | '"' :: rest => readBasic? bound rest
  | '\'' :: rest => readLiteral? rest
  | _ => none

/-! ## Keys -/

/-- A part of a text: what is left of the text where the part starts and where it ends. -/
structure Extent where
  start : List Char
  stop : List Char
  deriving DecidableEq

/-- A part of a key. -/
structure Key where
  /-- The key itself. -/
  name : String
  /-- Where it is written. -/
  extent : Extent
  deriving DecidableEq

/-- Whether a character may stand in a key without quotes. -/
def isBare (c : Char) : Bool :=
  c.isAlphanum || c == '_' || c == '-'

/-- Read the characters of one part of a key. -/
def readKeyChars? (bound : Nat) (text : List Char) : Option (List Char × List Char) :=
  match text with
  | '"' :: rest => readBasic? bound rest
  | '\'' :: rest => readLiteral? rest
  | _ =>
    let chars := text.takeWhile isBare
    if chars.isEmpty then none else some (chars, text.drop chars.length)

/-- Read one part of a key and the blanks around it. -/
def readPart? (bound : Nat) (text : List Char) : Option (Key × List Char) := do
  let text := skipBlanks text
  let (chars, rest) ← readKeyChars? bound text
  some (⟨String.ofList chars, ⟨text, rest⟩⟩, skipBlanks rest)

/-- Read the parts of a key after its first, each after a dot. -/
def readMoreParts? : Nat → List Char → Option (List Key × List Char)
  | 0, _ => none
  | bound + 1, '.' :: rest => do
    let (part, rest) ← readPart? bound rest
    let (parts, rest) ← readMoreParts? bound rest
    some (part :: parts, rest)
  | _ + 1, rest => some ([], rest)

/-- How many parts a key may have, and how deep values may nest. -/
def nestingLimit : Nat := 80

/-- Read a key. -/
def readKey? (bound : Nat) (text : List Char) : Option ((Key × List Key) × List Char) := do
  let (first, rest) ← readPart? bound text
  let (others, rest) ← readMoreParts? bound rest
  if others.length + 1 < nestingLimit then some ((first, others), rest) else none

end SlotLang.Toml
