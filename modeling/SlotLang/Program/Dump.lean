import SlotLang.Program.Basic
import SlotLang.Text.Quoted

/-!
# Showing programs

A program as text in the manner of a surface language. Sequences are shown flat, so the way they
nest does not show. A receiver stands in parentheses where the text would otherwise read as
something else: before an assignment, a conditional, a loop, an object literal or a negative number.
-/

namespace SlotLang

/-- Whether an expression needs parentheses to be a receiver. -/
def Expr.needsParens : Expr → Bool
  | .set _ _ => true
  | .setSlot _ _ _ => true
  | .cond _ _ _ => true
  | .loop _ _ => true
  | .object _ _ => true
  | .int n => n < 0
  | _ => false

/-- A receiver, in parentheses if it needs them. -/
def Expr.asReceiver (e : Expr) (text : String) : String :=
  if e.needsParens then "(" ++ text ++ ")" else text

mutual

/-- An expression as text. -/
def Expr.dump : Expr → String
  | .int n => toString n.toInt
  | .null => "null"
  | .printf format args => "printf(" ++ Text.quoted format ++ Expr.dumpMore args ++ ")"
  | .array length init => "array(" ++ length.dump ++ ", " ++ init.dump ++ ")"
  | .object parent members =>
    "object(" ++ parent.dump ++ ") \x7b" ++ Member.dumpAll members ++ " \x7d"
  | .slot receiver name => receiver.asReceiver receiver.dump ++ "." ++ name
  | .setSlot receiver name value =>
    receiver.asReceiver receiver.dump ++ "." ++ name ++ " = " ++ value.dump
  | .callSlot receiver name args =>
    receiver.asReceiver receiver.dump ++ "." ++ name ++ "(" ++ Expr.dumpAll args ++ ")"
  | .call name args => name ++ "(" ++ Expr.dumpAll args ++ ")"
  | .set name value => name ++ " = " ++ value.dump
  | .cond pred conseq alt =>
    "if " ++ pred.dump ++ " \x7b " ++ conseq.dump ++ " \x7d else \x7b " ++ alt.dump ++ " \x7d"
  | .loop pred body => "while " ++ pred.dump ++ " \x7b " ++ body.dump ++ " \x7d"
  | .ref name => name

/-- Arguments with a comma between each two. -/
def Expr.dumpAll : List Expr → String
  | [] => ""
  | e :: rest => e.dump ++ Expr.dumpMore rest

/-- Arguments with a comma before each. -/
def Expr.dumpMore : List Expr → String
  | [] => ""
  | e :: rest => ", " ++ e.dump ++ Expr.dumpMore rest

/-- A member as text. -/
def Member.dump : Member → String
  | .var name init => "var " ++ name ++ " = " ++ init.dump
  | .method routine => "method " ++ routine.dump

/-- Members after an opening brace, with a semicolon between each two. -/
def Member.dumpAll : List Member → String
  | [] => ""
  | member :: rest => " " ++ member.dump ++ Member.dumpMore rest

/-- Members with a semicolon before each. -/
def Member.dumpMore : List Member → String
  | [] => ""
  | member :: rest => "; " ++ member.dump ++ Member.dumpMore rest

/-- A statement as text. -/
def Stmt.dump : Stmt → String
  | .var name init => "var " ++ name ++ " = " ++ init.dump
  | .fn routine => "defn " ++ routine.dump
  | .seq first second => first.dump ++ "; " ++ second.dump
  | .expr e => e.dump

/-- A routine as text, without the word before it. -/
def Routine.dump : Routine → String
  | ⟨name, params, body⟩ =>
    name ++ "(" ++ ", ".intercalate params ++ ") \x7b " ++ body.dump ++ " \x7d"

end

end SlotLang
