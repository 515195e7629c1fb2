import SlotLang.Json.Shape
import SlotLang.Json.Skip
import SlotLang.Json.Value

/-!
# Reading terms

One reader for all shapes. It reads the text from left to right and refuses it at the first thing
that does not fit; whatever way a text spells a term, the value read is the term's canonical one:
records as objects with their fields in order, a tag without content as a string.

A bound limits how deeply values nest and how many items and members they have. The length of the
text plus one is always enough.
-/

namespace SlotLang.Json

open Text

/-! ## Values of the wrong type -/

/-- The refusal of a value that does not start as `expected` does. The value is read as far as its
type shows, so a misspelt value is refused for that. -/
def mismatch (bound : Nat) (expected : String) (text : List Char) : Except Failure Failure :=
  let found (what : Found) (rest : List Char) : Failure :=
    .located (.wrongType what expected) (byteLength rest)
  match text with
  | 'n' :: rest => do return found .null (← readWord ['u', 'l', 'l'] rest)
  | 't' :: rest => do return found (.boolean true) (← readWord ['r', 'u', 'e'] rest)
  | 'f' :: rest => do return found (.boolean false) (← readWord ['a', 'l', 's', 'e'] rest)
  | '"' :: rest => do
    let (value, rest) ← readString bound rest
    return found (.string value) rest
  | '[' :: _ => return found .sequence text
  | '\x7b' :: _ => return found .map text
  | c :: _ =>
    if c = '-' ∨ isDigit c then do
      let (value, rest) ← readNumber text
      return found (.number value) rest
    else refuseNext .expectedValue text
  | [] => refuseNext .expectedValue text

/-- Refuse a value of the wrong type. -/
def refuseType {α : Type} (bound : Nat) (expected : String) (text : List Char) :
    Except Failure α :=
  match mismatch bound expected text with
  | .ok failure => .error failure
  | .error failure => .error failure

/-! ## Strings and integers -/

/-- Read a string. -/
def readText (bound : Nat) (text : List Char) : Except Failure (Json × List Char) :=
  match skipBlanks text with
  | [] => refuseNext .endOfValue []
  | '"' :: rest => do
    let (value, rest) ← readString bound rest
    .ok (.string value, rest)
  | rest => refuseType bound "a string" rest

/-- A number as a 64-bit integer. -/
def toInteger (number : Number) (rest : List Char) : Except Failure (Json × List Char) :=
  match number with
  | .integer n =>
    if n ≤ Int64.maxValue.toInt then .ok (.int (Int64.ofInt n), rest)
    else refuse (.integerOutOfRange n) rest
  | .real _ _ => refuse (.wrongType (.number number) "i64") rest

/-- Read a 64-bit integer. -/
def readInteger (bound : Nat) (text : List Char) : Except Failure (Json × List Char) :=
  match skipBlanks text with
  | [] => refuseNext .endOfValue []
  | c :: rest =>
    if c = '-' ∨ isDigit c then do
      let (number, rest) ← readNumber (c :: rest)
      toInteger number rest
    else refuseType bound "i64" (c :: rest)

/-! ## Brackets -/

/-- Look for a closing bracket: what is wrong if it is not there, and the text from where the search
stopped. -/
def findClose (close : Char) (text : List Char) : Option Cause × List Char :=
  match skipBlanks text with
  | [] => (some (if close = ']' then .endOfList else .endOfObject), [])
  | c :: rest =>
    if c = close then (none, rest)
    else if c = ',' then
      if close = ']' then
        let rest := skipBlanks rest
        (some (if rest.head? = some ']' then .trailingComma else .trailingCharacters), rest)
      else (some .trailingComma, c :: rest)
    else (some .trailingCharacters, c :: rest)

/-- Finish a bracket whose inside has been read. A refusal from inside that has no place yet gets
the place where the search for the closing bracket stops. -/
def closed {α : Type} (close : Char) (inside : Except Failure (α × List Char)) :
    Except Failure (α × List Char) :=
  match inside with
  | .ok (value, text) =>
    match findClose close text with
    | (none, rest) => .ok (value, rest)
    | (some cause, rest) => refuseNext cause rest
  | .error (.unlocated cause text) => refuse cause (findClose close text).2
  | .error failure => .error failure

/-- The text of a list's next item, or none if the list ends here. -/
def nextItem (first : Bool) (text : List Char) : Except Failure (Option (List Char)) :=
  match skipBlanks text with
  | [] => refuseNext .endOfList []
  | ']' :: _ => .ok none
  | c :: rest =>
    if first then .ok (some (c :: rest))
    else if c = ',' then
      match skipBlanks rest with
      | [] => refuseNext .endOfValue []
      | ']' :: rest => refuseNext .trailingComma (']' :: rest)
      | rest => .ok (some rest)
    else refuseNext .expectedCommaOrBracket (c :: rest)

/-- The text of an object's next key after its opening quote, or none if the object ends here. -/
def nextMember (first : Bool) (text : List Char) : Except Failure (Option (List Char)) :=
  match skipBlanks text with
  | [] => refuseNext .endOfObject []
  | '\x7d' :: _ => .ok none
  | c :: rest =>
    if first then
      if c = '"' then .ok (some rest) else refuseNext .keyNotString (c :: rest)
    else if c = ',' then
      match skipBlanks rest with
      | [] => refuseNext .endOfValue []
      | '\x7d' :: rest => refuseNext .trailingComma ('\x7d' :: rest)
      | '"' :: rest => .ok (some rest)
      | rest => refuseNext .keyNotString rest
    else refuseNext .expectedCommaOrBrace (c :: rest)

/-! ## Lists and records -/

/-- A way to read values of a shape. -/
abbrev ShapeReader := Shape → List Char → Except Failure (Json × List Char)

/-- Read items of one shape up to the end of their list. -/
def readItems (read : ShapeReader) (shape : Shape) :
    Nat → Bool → List Char → Except Failure (List Json × List Char)
  | 0, _, text => refuse .unfinished text
  | bound + 1, first, text => do
    match ← nextItem first text with
    | none => .ok ([], text)
    | some text =>
      let (item, rest) ← read shape text
      let (items, rest) ← readItems read shape bound false rest
      .ok (item :: items, rest)

/-- Read a list. -/
def readList (read : ShapeReader) (shape : Shape) (bound : Nat) (text : List Char) :
    Except Failure (Json × List Char) :=
  match skipBlanks text with
  | [] => refuseNext .endOfValue []
  | '[' :: rest => do
    let (items, rest) ← closed ']' (readItems read shape bound true rest)
    .ok (.list items, rest)
  | rest => refuseType bound "a sequence" rest

/-- Read items of the given shapes. `got` counts those read before, and `expected` is how many
`what` has. -/
def readRow (read : ShapeReader) (what : String) (expected : Nat) :
    Nat → List Shape → List Char → Except Failure (List Json × List Char)
  | _, [], text => .ok ([], text)
  | got, shape :: shapes, text => do
    match ← nextItem (got == 0) text with
    | none => .error (.unlocated (.wrongLength got what expected) text)
    | some text =>
      let (item, rest) ← read shape text
      let (items, rest) ← readRow read what expected (got + 1) shapes rest
      .ok (item :: items, rest)

/-- Read members of an object up to its end. Fields are read by their shape and collected, other
members are passed over. -/
def readMembers (read : ShapeReader) (fields : List Field) :
    Nat → Bool → List (String × Json) → List Char →
      Except Failure (List (String × Json) × List Char)
  | 0, _, _, text => refuse .unfinished text
  | bound + 1, first, got, text => do
    match ← nextMember first text with
    | none => .ok (got, text)
    | some text =>
      let (key, rest) ← readString bound text
      if (got.lookup key).isSome then .error (.unlocated (.duplicateField key) rest)
      else
        let rest ← readColon rest
        match fields.find? (·.name == key) with
        | some field =>
          let (value, rest) ← read field.shape rest
          readMembers read fields bound false ((key, value) :: got) rest
        | none =>
          let rest ← skipValue bound rest
          readMembers read fields bound false got rest

/-- The collected fields in the order of their declaration. -/
def inOrder (got : List (String × Json)) (text : List Char) :
    List Field → Except Failure (List (String × Json))
  | [] => .ok []
  | field :: fields =>
    match got.lookup field.name with
    | none => .error (.unlocated (.missingField field.name) text)
    | some value => do return (field.name, value) :: (← inOrder got text fields)

/-- Read a record: an object with its fields in any order, or the list of its fields' values. -/
def readRecord (read : ShapeReader) (bound : Nat) (what : String) (fields : List Field)
    (text : List Char) : Except Failure (Json × List Char) :=
  match skipBlanks text with
  | [] => refuseNext .endOfValue []
  | '[' :: rest => do
    let shapes := fields.map Field.shape
    let (values, rest) ← closed ']' (readRow read what fields.length 0 shapes rest)
    .ok (.object ((fields.map Field.name).zip values), rest)
  | '\x7b' :: rest => do
    let (members, rest) ← closed '\x7d' do
      let (got, rest) ← readMembers read fields bound true [] rest
      let members ← inOrder got rest fields
      .ok (members, rest)
    .ok (.object members, rest)
  | rest => refuseType bound what rest

/-! ## Terms -/

/-- The content that goes with a tag, or the refusal of a tag that is not known. -/
def findTag (variants : List Variant) (tag : String) (rest : List Char) :
    Except Failure Content :=
  match variants.find? (·.tag == tag) with
  | some variant => .ok variant.content
  | none => refuse (.unknownTag tag (variants.map Variant.tag)) rest

/-- Read the content of a tag: its value is what stands beside the tag, or nothing. -/
def readContent (read : ShapeReader) (bound : Nat) (name tag : String) (content : Content)
    (text : List Char) : Except Failure (Option Json × List Char) :=
  match content with
  | .unit =>
    match skipBlanks text with
    | [] => refuseNext .endOfValue []
    | 'n' :: rest => do return (none, ← readWord ['u', 'l', 'l'] rest)
    | rest => refuseType bound "unit" rest
  | .single shape => do
    let (value, rest) ← read shape text
    .ok (some value, rest)
  | .row shapes =>
    let what := "tuple variant " ++ name ++ "::" ++ tag
    match skipBlanks text with
    | [] => refuseNext .endOfValue []
    | '[' :: rest => do
      let (items, rest) ← closed ']' (readRow read what shapes.length 0 shapes rest)
      .ok (some (.list items), rest)
    | rest => refuseType bound what rest
  | .record fields => do
    let what := "struct variant " ++ name ++ "::" ++ tag
    let (value, rest) ← readRecord read bound what fields text
    .ok (some value, rest)

/-- A tag with its content, or alone. -/
def tagged (tag : String) : Option Json → Json
  | none => .string tag
  | some content => .object [(tag, content)]

/-- Read a term that is a choice between tags. -/
def readChoice (read : ShapeReader) (bound : Nat) (name : String) (variants : List Variant)
    (text : List Char) : Except Failure (Json × List Char) :=
  match skipBlanks text with
  | [] => refuseNext .endOfValue []
  | '"' :: rest => do
    let (tag, rest) ← readString bound rest
    match ← findTag variants tag rest with
    | .unit => .ok (.string tag, rest)
    | content => .error (.unlocated (.bareTag content.describe) rest)
  | '\x7b' :: rest =>
    match skipBlanks rest with
    | [] => refuseNext .endOfObject []
    | '"' :: rest => do
      let (tag, rest) ← readString bound rest
      let content ← findTag variants tag rest
      let rest ← readColon rest
      let (value, rest) ← readContent read bound name tag content rest
      match skipBlanks rest with
      | [] => refuse .endOfObject []
      | '\x7d' :: rest => .ok (tagged tag value, rest)
      | rest => refuse .expectedValue rest
    | '\x7d' :: rest => refuseNext .expectedValue ('\x7d' :: rest)
    | rest => refuseNext .keyNotString rest
  | rest => refuseNext .expectedValue rest

/-- Read a value of a shape, given a reader for the values inside it. -/
def readShape (bound : Nat) (read : ShapeReader) : ShapeReader
  | .text, text => readText bound text
  | .integer, text => readInteger bound text
  | .list item, text => readList read item bound text
  | .term kind, text =>
    match kind.layout with
    | .choice name variants => readChoice read bound name variants text
    | .record name fields => readRecord read bound ("struct " ++ name) fields text

/-- Read a value of a shape within a bound. -/
def readWithin : Nat → ShapeReader
  | 0, _, text => refuse .unfinished text
  | bound + 1, shape, text => readShape bound (readWithin bound) shape text

/-- Read a whole text as a value of a shape. -/
def readAll (shape : Shape) (text : List Char) : Except Failure Json := do
  let (value, rest) ← readWithin (text.length + 1) shape text
  match skipBlanks rest with
  | [] => .ok value
  | rest => refuseNext .trailingCharacters rest

end SlotLang.Json
