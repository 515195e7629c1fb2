import SlotLang.Host.Error
import SlotLang.Json.Reader
import SlotLang.Program.Encoding

/-!
# Programs as texts

A program's text is its JSON value, spelt in any of the ways that the reader takes. What is wrong
with a text that it refuses is said with the line and the byte column of the place.
-/

namespace SlotLang

open Text

namespace Json

/-- A refusal as it is told: its words, its place in them, and the place as a span. -/
def Failure.toHostError (source : List Char) : Failure → HostError
  | .unlocated cause _ => .decode cause.message none
  | .located cause left =>
    let (line, column) := lineColumn source (byteLength source - left)
    .decode (cause.message ++ " at line " ++ toString line ++ " column " ++ toString column)
      (some (Span.atLineColumn source line column))

/-- Read a text as a term of a kind. -/
def readTerm {α : Type} (kind : Kind) (ofJson? : Json → Option α) (source : List Char) :
    Except Failure α := do
  match ofJson? (← readAll (.term kind) source) with
  | some term => .ok term
  | none => refuse .unfinished []

end Json

/-- Read a term's text. -/
def decodeTerm {α : Type} (kind : Json.Kind) (ofJson? : Json → Option α) (source : String) :
    Except HostError α :=
  (Json.readTerm kind ofJson? source.toList).mapError (·.toHostError source.toList)

/-- Read an expression's text. -/
def Expr.decode (source : String) : Except HostError Expr :=
  decodeTerm .expr Expr.ofJson? source

/-- Read a member's text. -/
def Member.decode (source : String) : Except HostError Member :=
  decodeTerm .member Member.ofJson? source

/-- Read a program's text. -/
def Stmt.decode (source : String) : Except HostError Stmt :=
  decodeTerm .stmt Stmt.ofJson? source

/-- Write a program's text. -/
def Stmt.encode (program : Stmt) : String :=
  program.toJson.pretty

/-- Whether a program is read back from what is written of it. -/
def Stmt.readsBack (program : Stmt) : Bool :=
  match Stmt.decode program.encode with
  | .ok again => again = program
  | .error _ => false

end SlotLang
