import SlotLang.Toml.Value

/-!
# TOML documents

A document is a list of pairs and headers, one a line. Pairs before the first header belong to the
root table; a header declares a table, or adds one to a list of tables, and the pairs after it
belong to that. The result is the root table; a text that breaks a rule of the format has none.
-/

namespace SlotLang.Toml

/-- The header that the pairs now belong to. -/
structure Header where
  /-- The tables on the way. -/
  path : List Key
  /-- The table's own key. -/
  key : Key
  /-- Whether it adds to a list of tables. -/
  isList : Bool
  /-- From the header to the end of the last value under it. -/
  extent : Extent
  deriving DecidableEq

/-- A document while it is read: the root table without the table under way, the header of the table
under way, if it is not the root itself, and its entries. -/
structure Draft where
  root : Entries
  header : Option Header
  entries : Entries

/-- Put a finished table at its place. -/
def close? (header : Header) (entries : Entries) (root : Entries) : Option Entries :=
  atPath? false (fun _ parent =>
    if header.isList then
      match findItem? parent header.key.name with
      | none => some (parent ++ [(header.key, .tables header.extent entries)])
      | some (.tables extent _) =>
        let whole : Extent := ⟨extent.start, header.extent.stop⟩
        some (replaceItem header.key.name (.tables whole entries) parent)
      | some _ => none
    else
      match findItem? parent header.key.name with
      | none => some (parent ++ [(header.key, .table (some header.extent) false entries)])
      | some _ => none) header.path false root

/-- Finish the table under way. -/
def Draft.finish? (draft : Draft) : Option Entries :=
  match draft.header with
  | none => some draft.entries
  | some header => close? header draft.entries draft.root

/-- Forget a key of a table. -/
def removeItem (name : String) (entries : Entries) : Entries :=
  entries.filter (·.1.name != name)

/-- What a new table starts with. A table that only occurred on the way to others may be declared
once; it is taken out, to come back after the entries there are now. -/
def reopen? (header : Header) (root : Entries) : Option (Entries × Entries) := do
  let parent ← atPath? false (fun _ parent => some parent) header.path false root
  let inner ← innermost? header.path parent
  match findItem? inner header.key.name with
  | none => some (parent, [])
  | some (.table none false entries) =>
    let root ← atPath? false (fun _ inner => some (removeItem header.key.name inner))
      header.path false parent
    some (root, entries)
  | some _ => none
where
  /-- The table at the end of a path of tables that are all there. -/
  innermost? : List Key → Entries → Option Entries
    | [], entries => some entries
    | key :: path, entries =>
      match findItem? entries key.name with
      | some (.table _ _ inner) => innermost? path inner
      | some (.tables _ inner) => innermost? path inner
      | _ => none

/-- Start the table of a header. -/
def open? (header : Header) (root : Entries) : Option Draft :=
  if header.isList then some ⟨root, some header, []⟩
  else (reopen? header root).map fun (root, entries) => ⟨root, some header, entries⟩

/-- Read a header after its opening brackets, which stand at `start`. -/
def readHeader? (bound : Nat) (isList : Bool) (start text : List Char) :
    Option (Header × List Char) := do
  let ((first, others), rest) ← readKey? bound text
  let rest ← readWord? (if isList then [']', ']'] else [']']) rest
  let (path, key) := splitLast first others
  some (⟨path, key, isList, ⟨start, rest⟩⟩, rest)

/-- Read a header line: finish the table under way and start the header's. -/
def readSection? (bound : Nat) (draft : Draft) (text : List Char) :
    Option (Draft × List Char) := do
  let (header, rest) ← match text with
    | '[' :: '[' :: rest => readHeader? bound true text rest
    | '[' :: rest => readHeader? bound false text rest
    | _ => none
  let draft ← open? header (← draft.finish?)
  some (draft, ← readLineEnd? rest)

/-- The header after a pair under it whose value ends at `stop`. -/
def Header.extendTo (header : Header) (stop : List Char) : Header :=
  { header with extent := ⟨header.extent.start, stop⟩ }

/-- Read a line with a pair. -/
def readEntry? (bound : Nat) (draft : Draft) (text : List Char) : Option (Draft × List Char) := do
  let ((entries, extent), rest) ←
    readPair? (readValue? bound nestingLimit) bound draft.entries text
  let header := draft.header.map (·.extendTo extent.stop)
  some ({ draft with header, entries }, ← readLineEnd? rest)

/-- Read lines up to the end of the text, at most `bound` of them. -/
def readLines? : Nat → Draft → List Char → Option Draft
  | 0, _, _ => none
  | bound + 1, draft, text =>
    match skipBlanks text with
    | [] => some draft
    | '[' :: rest => do
      let (draft, rest) ← readSection? bound draft ('[' :: rest)
      readLines? bound draft rest
    | c :: rest =>
      if c = '#' ∨ c = '\n' ∨ c = '\r' then do
        readLines? bound draft (← readLineEnd? (c :: rest))
      else do
        let (draft, rest) ← readEntry? bound draft (c :: rest)
        readLines? bound draft rest

/-- The text after a byte order mark. -/
def dropMark : List Char → List Char
  | '\ufeff' :: rest => rest
  | text => text

/-- The root table of a document. -/
def read? (text : List Char) : Option Entries := do
  let draft ← readLines? (text.length + 1) ⟨[], none, []⟩ (dropMark text)
  draft.finish?

end SlotLang.Toml
