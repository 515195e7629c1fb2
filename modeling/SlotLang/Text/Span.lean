/-!
# Positions in a source text

Positions count bytes of the text's UTF-8 form, lines count from one and end after each line feed.
A span is a byte range. This file turns a byte offset into a line and a column, and a line and a
column into a span that always lies inside the text.
-/

namespace SlotLang

/-- A byte range of a source text. -/
structure Span where
  /-- The first byte of the range. -/
  start : Nat
  /-- The byte after its last. -/
  stop : Nat
  deriving DecidableEq

namespace Text

/-- How many bytes a text takes. -/
def byteLength (text : List Char) : Nat :=
  text.foldr (fun c bytes => c.utf8Size + bytes) 0

/-- The lines of a text, each with the line feed that ends it. A text that ends in a line feed has
no empty line after it, and the empty text has no line. -/
def lines (text : List Char) : List (List Char) :=
  text.foldr (fun c rest =>
    if c = '\n' then [c] :: rest
    else match rest with
      | [] => [[c]]
      | line :: others => (c :: line) :: others) []

/-- Walk `offset` bytes into the text from a place at `line` and `column`. -/
def advance : List Char → Nat → Nat → Nat → Nat × Nat
  | [], _, line, column => (line, column)
  | c :: rest, offset, line, column =>
    if offset < c.utf8Size then (line, column + offset)
    else if c = '\n' then advance rest (offset - 1) (line + 1) 0
    else advance rest (offset - c.utf8Size) line (column + c.utf8Size)

/-- The line of a byte offset, and how many bytes lie between the start of that line and it. -/
def lineColumn (text : List Char) (offset : Nat) : Nat × Nat :=
  advance text offset 1 0

end Text

namespace Span

open Text

/-- The empty span at one place. -/
def point (place : Nat) : Span :=
  ⟨place, place⟩

/-- The empty span at the given column of the given line, both counted from one. A column past the
line's end is its end, and a line that does not exist is the end of the text. -/
def atLineColumn (source : List Char) (line column : Nat) : Span :=
  match line with
  | 0 => point (byteLength source)
  | before + 1 =>
    match (lines source)[before]? with
    | none => point (byteLength source)
    | some text =>
      let start := byteLength ((lines source).take before).flatten
      point (min (start + min (column - 1) (byteLength text)) (byteLength source))

/-- A span as text, its two ends around two dots. -/
def render (span : Span) : String :=
  s!"{span.start}..{span.stop}"

/-- A span as a small object with the keys `start` and `end`. -/
def toJson (span : Span) : String :=
  "\x7b\"start\":" ++ toString span.start ++ ",\"end\":" ++ toString span.stop ++ "\x7d"

end Span

end SlotLang
