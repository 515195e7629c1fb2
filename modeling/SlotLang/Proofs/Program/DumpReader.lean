import SlotLang.Program.Basic
import SlotLang.Proofs.Program.Tokens

/-!
# A reader of dumps

A program is read back from the text of its dump. An expression is a beginning, such as a name, an
integer or something in parentheses, and links that follow it, each a point and a name; where
nothing is in parentheses, the links that follow belong to all that stands before them. The reader
goes down at most as many levels as its bound says, and a large enough bound does not show.
-/

namespace SlotLang.Dump

/-! ## Reading -/

/-- The parameters of a routine, up to the closing parenthesis, and the rest of the text. Before all
but the first a comma stands. -/
def readParams : Nat → String → List Char → Option (List String × List Char)
  | 0, _, _ => none
  | bound + 1, separator, text =>
    match after ")" text with
    | some text => some ([], text)
    | none => do
      let text ← after separator text
      let (name, text) := word text
      let (names, text) ← readParams bound ", " text
      some (name :: names, text)

mutual

/-- Read an expression: a beginning and links. -/
def readExpr : Nat → List Char → Option (Expr × List Char)
  | 0, _ => none
  | bound + 1, text => do
    let (e, text) ← readBeginning bound text
    readLinks bound e text

/-- Read how an expression begins. -/
def readBeginning : Nat → List Char → Option (Expr × List Char)
  | 0, _ => none
  | bound + 1, text =>
    match after "(" text with
    | some text => do
      let (e, text) ← readExpr bound text
      let text ← after ")" text
      some (e, text)
    | none =>
      if startsNumber text then some (.int (number text).1, (number text).2)
      else readWorded bound (word text).1 (word text).2

/-- Read what begins with a word. -/
def readWorded : Nat → String → List Char → Option (Expr × List Char)
  | 0, _, _ => none
  | bound + 1, word, text =>
    if word = "null" then some (.null, text)
    else if word = "printf" then do
      let text ← after "(\"" text
      let (format, text) ← unquote bound text
      let (args, text) ← readArgs bound ", " text
      some (.printf (String.ofList format) args, text)
    else if word = "array" then do
      let text ← after "(" text
      let (length, text) ← readExpr bound text
      let text ← after ", " text
      let (init, text) ← readExpr bound text
      let text ← after ")" text
      some (.array length init, text)
    else if word = "object" then do
      let text ← after "(" text
      let (parent, text) ← readExpr bound text
      let text ← after ") \x7b" text
      let (members, text) ← readMembers bound " " text
      some (.object parent members, text)
    else if word = "if" then do
      let text ← after " " text
      let (pred, text) ← readExpr bound text
      let (conseq, text) ← readBlock bound text
      let text ← after " else" text
      let (alt, text) ← readBlock bound text
      some (.cond pred conseq alt, text)
    else if word = "while" then do
      let text ← after " " text
      let (pred, text) ← readExpr bound text
      let (body, text) ← readBlock bound text
      some (.loop pred body, text)
    else if IsName word then readNamed bound word text
    else none

/-- Read what begins with a name. -/
def readNamed : Nat → String → List Char → Option (Expr × List Char)
  | 0, _, _ => none
  | bound + 1, name, text =>
    match after "(" text with
    | some text => do
      let (args, text) ← readArgs bound "" text
      some (.call name args, text)
    | none =>
      match after " = " text with
      | some text => do
        let (value, text) ← readExpr bound text
        some (.set name value, text)
      | none => some (.ref name, text)

/-- Read the links that follow an expression. -/
def readLinks : Nat → Expr → List Char → Option (Expr × List Char)
  | 0, _, _ => none
  | bound + 1, e, text =>
    match after "." text with
    | none => some (e, text)
    | some text =>
      let (name, text) := word text
      match after "(" text with
      | some text => do
        let (args, text) ← readArgs bound "" text
        readLinks bound (.callSlot e name args) text
      | none =>
        match after " = " text with
        | some text => do
          let (value, text) ← readExpr bound text
          some (.setSlot e name value, text)
        | none => readLinks bound (.slot e name) text

/-- Read arguments up to the closing parenthesis. Before all but the first a comma stands. -/
def readArgs : Nat → String → List Char → Option (List Expr × List Char)
  | 0, _, _ => none
  | bound + 1, separator, text =>
    match after ")" text with
    | some text => some ([], text)
    | none => do
      let text ← after separator text
      let (e, text) ← readExpr bound text
      let (es, text) ← readArgs bound ", " text
      some (e :: es, text)

/-- Read a member. -/
def readMember : Nat → List Char → Option (Member × List Char)
  | 0, _ => none
  | bound + 1, text =>
    match after "var " text with
    | some text => do
      let (name, text) := word text
      let text ← after " = " text
      let (init, text) ← readExpr bound text
      some (.var name init, text)
    | none => do
      let text ← after "method " text
      let (routine, text) ← readRoutine bound text
      some (.method routine, text)

/-- Read members up to the closing brace. Before all but the first a semicolon stands. -/
def readMembers : Nat → String → List Char → Option (List Member × List Char)
  | 0, _, _ => none
  | bound + 1, separator, text =>
    match after " \x7d" text with
    | some text => some ([], text)
    | none => do
      let text ← after separator text
      let (member, text) ← readMember bound text
      let (members, text) ← readMembers bound "; " text
      some (member :: members, text)

/-- Read a statement that is no sequence. -/
def readStep : Nat → List Char → Option (Stmt × List Char)
  | 0, _ => none
  | bound + 1, text =>
    match after "var " text with
    | some text => do
      let (name, text) := word text
      let text ← after " = " text
      let (init, text) ← readExpr bound text
      some (.var name init, text)
    | none =>
      match after "defn " text with
      | some text => do
        let (routine, text) ← readRoutine bound text
        some (.fn routine, text)
      | none => do
        let (e, text) ← readExpr bound text
        some (.expr e, text)

/-- Read statements with semicolons between them. -/
def readSteps : Nat → List Char → Option (List Stmt × List Char)
  | 0, _ => none
  | bound + 1, text => do
    let (s, text) ← readStep bound text
    let (others, text) ← readFurther bound text
    some (s :: others, text)

/-- Read further statements, each after a semicolon. -/
def readFurther : Nat → List Char → Option (List Stmt × List Char)
  | 0, _ => none
  | bound + 1, text =>
    match after "; " text with
    | some text => readSteps bound text
    | none => some ([], text)

/-- Read statements in braces. -/
def readBlock : Nat → List Char → Option (Stmt × List Char)
  | 0, _ => none
  | bound + 1, text => do
    let text ← after " \x7b " text
    let (steps, text) ← readSteps bound text
    let text ← after " \x7d" text
    some (.ofList steps, text)

/-- Read a routine from its name on. -/
def readRoutine : Nat → List Char → Option (Routine × List Char)
  | 0, _ => none
  | bound + 1, text => do
    let (name, text) := word text
    let text ← after "(" text
    let (params, text) ← readParams bound "" text
    let (body, text) ← readBlock bound text
    some (⟨name, params, body⟩, text)

end

/-! ## Enough of a bound -/

/-- With every bound that is large enough, a reader gives the result. -/
def Reads {α : Type} (reader : Nat → Option α) (result : α) : Prop :=
  ∃ enough, ∀ bound, enough ≤ bound → reader bound = some result

namespace Reads

variable {α β : Type}

/-- What is read with every bound is read. -/
theorem of_eq {reader : Nat → Option α} {result : α} (same : ∀ bound, reader bound = some result) :
    Reads reader result :=
  ⟨0, fun bound _ => same bound⟩

/-- What a reader gives after one level more. -/
theorem succ {reader : Nat → Option α} {result : α}
    (reads : Reads (fun bound => reader (bound + 1)) result) : Reads reader result := by
  obtain ⟨enough, reads⟩ := reads
  refine ⟨enough + 1, fun bound more => ?_⟩
  obtain ⟨bound, rfl⟩ : ∃ left, bound = left + 1 := ⟨bound - 1, by omega⟩
  exact reads bound (by omega)

/-- One reader after another. -/
theorem bind {first : Nat → Option α} {next : Nat → α → Option β} {found : α} {result : β}
    (reads : Reads first found) (nextReads : Reads (fun bound => next bound found) result) :
    Reads (fun bound => first bound >>= next bound) result := by
  obtain ⟨enough, reads⟩ := reads
  obtain ⟨more, nextReads⟩ := nextReads
  refine ⟨max enough more, fun bound large => ?_⟩
  have answer := reads bound (by omega)
  have nextAnswer := nextReads bound (by omega)
  simp only [answer, Option.bind_eq_bind, Option.bind_some, nextAnswer]

/-- A reader gives one result. -/
theorem unique {reader : Nat → Option α} {result result' : α} (reads : Reads reader result)
    (reads' : Reads reader result') : result = result' := by
  obtain ⟨enough, reads⟩ := reads
  obtain ⟨enough', reads'⟩ := reads'
  have same := (reads _ (Nat.le_max_left enough enough')).symm.trans
    (reads' _ (Nat.le_max_right enough enough'))
  exact Option.some.inj same

/-- A sign that a text begins with, and then more. -/
theorem sign {s : String} {rest : List Char} {next : Nat → List Char → Option β} {result : β}
    (reads : Reads (fun bound => next bound rest) result) :
    Reads (fun bound => after s (s.toList ++ rest) >>= next bound) result :=
  bind (of_eq fun _ => after_append s rest) reads

end Reads

end SlotLang.Dump
