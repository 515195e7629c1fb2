import SlotLang.Toml.Number

/-!
# Values and tables of a TOML text

A table is a list of entries in the order of their keys' appearance. A table that nobody declared,
because it only occurs as a step of a longer key, may still be declared later; one that was declared
or that dotted keys built up may not. Of a list and of an inline table only the form matters here,
since no setting takes one.
-/

namespace SlotLang.Toml

/-- A value as far as settings tell values apart. -/
inductive Value where
  | string (text : String)
  | integer (n : Int)
  | real (x : Real)
  | boolean (value : Bool)
  | date
  | list
  | inlineTable
  deriving DecidableEq

/-- What a key stands for. -/
inductive Item where
  /-- A value and where it is written. -/
  | value (v : Value) (extent : Extent)
  /-- A table: where it is declared, if it is, and whether dotted keys built it. -/
  | table (declared : Option Extent) (dotted : Bool) (entries : List (Key × Item))
  /-- A list of tables: where they are written, and the entries of the last. -/
  | tables (extent : Extent) (entries : List (Key × Item))

/-- The entries of a table. -/
abbrev Entries := List (Key × Item)

/-- Replace the item of a key. -/
def replaceItem (name : String) (item : Item) : Entries → Entries
  | [] => []
  | (key, old) :: rest =>
    if key.name = name then (key, item) :: rest else (key, old) :: replaceItem name item rest

/-- What a key stands for in a table. -/
def findItem? (entries : Entries) (name : String) : Option Item :=
  (entries.find? (·.1.name == name)).map Prod.snd

/-- Change the table at the end of a path, building the tables on the way that are not there.
`dotted` says that the path is part of a dotted key, which must not go through a table that was
declared. The change learns whether dotted keys built the table. -/
def atPath? (dotted : Bool) (change : Bool → Entries → Option Entries) :
    List Key → Bool → Entries → Option Entries
  | [], built, entries => change built entries
  | key :: path, _, entries =>
    match findItem? entries key.name with
    | none => do
      let inner ← atPath? dotted change path dotted []
      some (entries ++ [(key, .table none dotted inner)])
    | some (.value _ _) => none
    | some (.tables extent last) => do
      let inner ← atPath? dotted change path false last
      some (replaceItem key.name (.tables extent inner) entries)
    | some (.table declared built inner) =>
      if dotted && declared.isSome then none
      else do
        let inner ← atPath? dotted change path built inner
        some (replaceItem key.name (.table declared built inner) entries)

/-- Split the last part off a key. -/
def splitLast (first : Key) : List Key → List Key × Key
  | [] => ([], first)
  | next :: rest =>
    let (path, last) := splitLast next rest
    (first :: path, last)

/-- Bind a key to a value in a table. The key must be new, and the table it falls into must have
been built by dotted keys exactly if the key is dotted. -/
def insertPair? (first : Key) (others : List Key) (v : Value) (extent : Extent)
    (entries : Entries) : Option Entries :=
  let (path, key) := splitLast first others
  atPath? true (fun built entries =>
    if built == path.isEmpty then none
    else if (findItem? entries key.name).isSome then none
    else some (entries ++ [(key, .value v extent)])) path false entries

/-! ## Reading values -/

/-- Read a word. -/
def readWord? : List Char → List Char → Option (List Char)
  | [], rest => some rest
  | want :: word, c :: rest => if c = want then readWord? word rest else none
  | _ :: _, [] => none

/-- Read a number or a date. -/
def readNumeric? (text : List Char) : Option (Value × List Char) :=
  if startsLikeDate text || startsLikeTime text then
    (readDateTime? text).map fun rest => (.date, rest)
  else
    match readReal? text with
    | some (x, rest) => some (.real x, rest)
    | none => (readInteger? text).map fun (n, rest) => (.integer n, rest)

/-- Read the values of a list and its closing bracket, given how to read one value. -/
def readValues? (read : List Char → Option (Value × List Char)) :
    Nat → List Char → Option (List Char)
  | 0, _ => none
  | bound + 1, text =>
    match skipLines bound text with
    | ']' :: rest => some rest
    | text => do
      let (_, rest) ← read text
      match skipLines bound rest with
      | ',' :: rest => readValues? read bound rest
      | ']' :: rest => some rest
      | _ => none

/-- Read a key, an equals sign and a value, given how to read a value, and bind the key. -/
def readPair? (read : List Char → Option (Value × List Char)) (bound : Nat) (entries : Entries)
    (text : List Char) : Option ((Entries × Extent) × List Char) := do
  let ((first, others), rest) ← readKey? bound text
  let rest ← readWord? ['='] rest
  let rest := skipBlanks rest
  let (v, after) ← read rest
  let extent : Extent := ⟨rest, after⟩
  some ((← insertPair? first others v extent entries, extent), after)

/-- Read the pairs of an inline table and its closing brace. -/
def readInline? (read : List Char → Option (Value × List Char)) :
    Nat → Entries → List Char → Option (List Char)
  | 0, _, _ => none
  | bound + 1, entries, text => do
    let ((entries, _), rest) ← readPair? read bound entries text
    match skipBlanks rest with
    | ',' :: rest => readInline? read bound entries rest
    | '\x7d' :: rest => some rest
    | _ => none

/-- Read a value that nests at most `depth` deep. -/
def readValue? (bound : Nat) : Nat → List Char → Option (Value × List Char)
  | 0, _ => none
  | depth + 1, text =>
    match text with
    | '"' :: _ | '\'' :: _ =>
      (readString? bound text).map fun (chars, rest) => (.string (String.ofList chars), rest)
    | 't' :: rest => (readWord? ['r', 'u', 'e'] rest).map fun rest => (.boolean true, rest)
    | 'f' :: rest =>
      (readWord? ['a', 'l', 's', 'e'] rest).map fun rest => (.boolean false, rest)
    | '[' :: rest =>
      if depth = 0 then none
      else (readValues? (readValue? bound depth) bound rest).map fun rest => (.list, rest)
    | '\x7b' :: rest =>
      if depth = 0 then none
      else
        match skipBlanks rest with
        | '\x7d' :: rest => some (.inlineTable, rest)
        | rest =>
          (readInline? (readValue? bound depth) bound [] rest).map fun rest =>
            (.inlineTable, rest)
    | text => readNumeric? text

end SlotLang.Toml
