/-!
# Programs

A program is one statement. Statements, expressions, the members of an object literal and the
routines that functions and methods share are four kinds of term that contain one another.

This file holds the terms, the ways a host builds them, and the word that names an expression's
kind. It gives them no meaning: reading, showing and running are modules of their own.
-/

namespace SlotLang

mutual

/-- An expression. -/
inductive Expr where
  /-- An integer literal. -/
  | int (value : Int64)
  /-- The absent value. -/
  | null
  /-- Print `format`, each tilde replaced by the next argument. -/
  | printf (format : String) (args : List Expr)
  /-- An array of `length` copies of `init`. -/
  | array (length init : Expr)
  /-- An object that starts as a copy of `parent` and then gains `members`. -/
  | object (parent : Expr) (members : List Member)
  /-- Read a slot. -/
  | slot (receiver : Expr) (name : String)
  /-- Write a slot that exists. -/
  | setSlot (receiver : Expr) (name : String) (value : Expr)
  /-- Call a method of an object, or an operator of an integer or an array. -/
  | callSlot (receiver : Expr) (name : String) (args : List Expr)
  /-- Call a global function. -/
  | call (name : String) (args : List Expr)
  /-- Assign to a variable that exists. -/
  | set (name : String) (value : Expr)
  /-- Take `conseq` unless `pred` is null, and `alt` if it is. -/
  | cond (pred : Expr) (conseq alt : Stmt)
  /-- Repeat `body` as long as `pred` is an integer. -/
  | loop (pred : Expr) (body : Stmt)
  /-- The value of a variable. -/
  | ref (name : String)

/-- A member of an object literal. -/
inductive Member where
  /-- A slot that holds the value of `init`. -/
  | var (name : String) (init : Expr)
  /-- A method, bound under the routine's own name. -/
  | method (routine : Routine)

/-- A statement of a global or a local scope. -/
inductive Stmt where
  /-- Declare a variable in the innermost scope. -/
  | var (name : String) (init : Expr)
  /-- Declare a function, always in the global scope. -/
  | fn (routine : Routine)
  /-- Run `first`, then `second`, whose value is the value of both. -/
  | seq (first second : Stmt)
  /-- Run an expression; its value is the statement's value. -/
  | expr (e : Expr)

/-- What a function and a method have in common: parameters and a body, and no captured scope. -/
structure Routine where
  /-- The name under which the routine is declared. -/
  name : String
  /-- The names its arguments are bound to, in order. -/
  params : List String
  /-- The statement it runs. -/
  body : Stmt

end

/-- Where some expression is wanted, null is one. -/
instance : Inhabited Expr := ⟨.null⟩
/-- Where some statement is wanted, the expression null is one. -/
instance : Inhabited Stmt := ⟨.expr .null⟩

namespace Expr

/-- The word for an expression's kind. -/
def kind : Expr → String
  | int _ => "int"
  | null => "null"
  | printf _ _ => "printf"
  | array _ _ => "array"
  | object _ _ => "object"
  | slot _ _ => "slot"
  | setSlot _ _ _ => "set-slot"
  | callSlot _ _ _ => "call-slot"
  | call _ _ => "call"
  | set _ _ => "set"
  | cond _ _ _ => "if"
  | loop _ _ => "while"
  | ref _ => "ref"

/-- Apply a two-place operator: `x.op "add" y` is the call of `add` on `x` with the argument `y`. -/
def op (receiver : Expr) (name : String) (arg : Expr) : Expr :=
  .callSlot receiver name [arg]

end Expr

namespace Routine

/-- How many arguments the routine takes. -/
def arity (routine : Routine) : Nat :=
  routine.params.length

end Routine

namespace Stmt

/-- The statement that runs a list of statements in order. Sequences nest to the right, and the
empty list is the statement `null`. -/
def ofList : List Stmt → Stmt
  | [] => .expr .null
  | [only] => only
  | first :: rest => .seq first (ofList rest)

/-- The kind of the program's root, if the root is an expression. -/
def kind? : Stmt → Option String
  | .expr e => some e.kind
  | _ => none

/-- Declare a function from its parts. -/
def defn (name : String) (params : List String) (body : Stmt) : Stmt :=
  .fn ⟨name, params, body⟩

end Stmt

end SlotLang
