import SlotLang.Decimal.Layout
import SlotLang.Text.Quoted
import SlotLang.Text.Span

/-!
# Why a text is refused

A reader takes a text from its front and hands back what it has not read. When it refuses the text
it says why, and where: a place is given by the number of bytes that were still to be read. Some
refusals are known before their place is; they carry the unread text until the bracket that encloses
them is found or missed.
-/

namespace SlotLang.Json

open Text

/-- A number as a text may spell it. -/
inductive Number where
  /-- A whole number that fits in 64 bits, signed or not. -/
  | integer (n : Int)
  /-- Any other number, rounded. -/
  | real (negative : Bool) (magnitude : Decimal.Binary64)
  deriving DecidableEq

/-- A value found where another was wanted. -/
inductive Found where
  | null
  | boolean (value : Bool)
  | number (value : Number)
  | string (value : String)
  | sequence
  | map
  deriving DecidableEq

/-- Why a text is refused. -/
inductive Cause where
  /-- The text ends where a value should stand. -/
  | endOfValue
  /-- The text ends inside a string. -/
  | endOfString
  /-- The text ends inside a list. -/
  | endOfList
  /-- The text ends inside an object. -/
  | endOfObject
  /-- A misspelt `null`, `true` or `false`. -/
  | expectedIdent
  /-- No value starts here. -/
  | expectedValue
  /-- No colon after a key. -/
  | expectedColon
  /-- Neither a comma nor the end of the list. -/
  | expectedCommaOrBracket
  /-- Neither a comma nor the end of the object. -/
  | expectedCommaOrBrace
  /-- A control character inside a string. -/
  | controlCharacter
  /-- An escape that does not exist. -/
  | invalidEscape
  /-- A surrogate without its other half. -/
  | loneSurrogate
  /-- No second escape after the first half of a pair. -/
  | truncatedEscape
  /-- A misspelt number. -/
  | invalidNumber
  /-- A number too large to round. -/
  | numberOutOfRange
  /-- A key without quotes. -/
  | keyNotString
  /-- A comma with nothing after it. -/
  | trailingComma
  /-- More text than there should be. -/
  | trailingCharacters
  /-- A value of another type. -/
  | wrongType (found : Found) (expected : String)
  /-- A whole number that is no 64-bit signed integer. -/
  | integerOutOfRange (n : Int)
  /-- Too few values in a list of fixed length. -/
  | wrongLength (got : Nat) (what : String) (expected : Nat)
  /-- A field given twice. -/
  | duplicateField (name : String)
  /-- A field not given. -/
  | missingField (name : String)
  /-- A tag that is not one of those known. -/
  | unknownTag (tag : String) (known : List String)
  /-- A bare tag where the tag needs content of the given kind. -/
  | bareTag (content : String)
  /-- The reader's own bound was too small. -/
  | unfinished
  deriving DecidableEq

/-- A refusal. -/
inductive Failure where
  /-- At the place that leaves the given number of bytes. -/
  | located (cause : Cause) (left : Nat)
  /-- Before its place is known, with the text that is unread. -/
  | unlocated (cause : Cause) (rest : List Char)
  deriving DecidableEq

/-- Refuse at the start of the unread text. -/
def refuse {α : Type} (cause : Cause) (rest : List Char) : Except Failure α :=
  .error (.located cause (byteLength rest))

/-- Refuse one byte into the unread text, or at its end if it has none. -/
def refuseNext {α : Type} (cause : Cause) (rest : List Char) : Except Failure α :=
  .error (.located cause (byteLength rest - 1))

/-- What a value is called. -/
def Found.describe : Found → String
  | null => "null"
  | boolean true => "boolean `true`"
  | boolean false => "boolean `false`"
  | number (.integer n) => "integer `" ++ toString n ++ "`"
  | number (.real negative magnitude) =>
    "floating point `" ++ Decimal.render .scientific negative magnitude ++ "`"
  | string value => "string " ++ quoted value
  | sequence => "sequence"
  | map => "map"

/-- The tags that are known, as a choice. -/
def choice : List String → String
  | [first, second] => "`" ++ first ++ "` or `" ++ second ++ "`"
  | tags => "one of " ++ ", ".intercalate (tags.map fun tag => "`" ++ tag ++ "`")

/-- What a refusal says. -/
def Cause.message : Cause → String
  | endOfValue => "EOF while parsing a value"
  | endOfString => "EOF while parsing a string"
  | endOfList => "EOF while parsing a list"
  | endOfObject => "EOF while parsing an object"
  | expectedIdent => "expected ident"
  | expectedValue => "expected value"
  | expectedColon => "expected `:`"
  | expectedCommaOrBracket => "expected `,` or `]`"
  | expectedCommaOrBrace => "expected `,` or `\x7d`"
  | controlCharacter => "control character (\\u0000-\\u001F) found while parsing a string"
  | invalidEscape => "invalid escape"
  | loneSurrogate => "lone leading surrogate in hex escape"
  | truncatedEscape => "unexpected end of hex escape"
  | invalidNumber => "invalid number"
  | numberOutOfRange => "number out of range"
  | keyNotString => "key must be a string"
  | trailingComma => "trailing comma"
  | trailingCharacters => "trailing characters"
  | wrongType found expected => "invalid type: " ++ found.describe ++ ", expected " ++ expected
  | integerOutOfRange n => "invalid value: integer `" ++ toString n ++ "`, expected i64"
  | wrongLength got what expected =>
    s!"invalid length {got}, expected {what} with {expected} elements"
  | duplicateField name => "duplicate field `" ++ name ++ "`"
  | missingField name => "missing field `" ++ name ++ "`"
  | unknownTag tag known => "unknown variant `" ++ tag ++ "`, expected " ++ choice known
  | bareTag content => "invalid type: unit variant, expected " ++ content ++ " variant"
  | unfinished => "unfinished"

end SlotLang.Json
