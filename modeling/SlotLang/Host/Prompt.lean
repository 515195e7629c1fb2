import SlotLang.Host.Session
import SlotLang.Text.Blank
import SlotLang.Text.Typed

/-!
# The prompt

A session driven by lines of text. A line is blank, a command, which starts with a colon, or a
statement. What a line causes to be said goes to the output or, if it is a failure, to the errors;
the two channels are kept apart and each keeps its order.
-/

namespace SlotLang

/-- A piece of text on one of the two channels. -/
inductive Message where
  /-- On the output. -/
  | out (text : String)
  /-- On the errors. -/
  | err (text : String)
  deriving DecidableEq

namespace Message

/-- A line on the output. -/
def line (text : String) : Message :=
  .out (text ++ "\n")

/-- The text on the output. -/
def outText (messages : List Message) : String :=
  String.join (messages.filterMap fun | out text => some text | err _ => none)

/-- The text on the errors. -/
def errText (messages : List Message) : String :=
  String.join (messages.filterMap fun | err text => some text | out _ => none)

end Message

namespace Prompt

/-- What is said before the first line. -/
def banner : List Message :=
  [.line "Proto REPL v0.1.0",
   .line "Enter one JSON statement per line. Type :help for help, :quit to exit.\n"]

/-- What is said at the end. -/
def farewell : List Message :=
  [.line "Goodbye!"]

/-- What is said when help is asked for. -/
def help : List Message :=
  [.line "Proto REPL Commands:",
   .line "  :help, :h, :?   Show this help",
   .line "  :quit, :q       Exit the REPL",
   .line "  :globals        List global variables and functions",
   .line "  :reset          Clear the global scope",
   .line "",
   .line "Each line is a JSON statement, for example:",
   .line "  \x7b\"Var\":\x7b\"name\":\"x\",\"init\":\x7b\"Int\":41\x7d\x7d\x7d",
   .line ("  \x7b\"Exp\":\x7b\"CallSlot\":\x7b\"receiver\":\x7b\"Ref\":\"x\"\x7d," ++
     "\"name\":\"add\",\"args\":[\x7b\"Int\":1\x7d]\x7d\x7d\x7d")]

/-- What a line asks for. -/
inductive Request where
  | nothing
  | quit
  | help
  | globals
  | reset
  | unknown (command : String)
  | statement (text : String)
  deriving DecidableEq

/-- The command that a line with a colon in front gives. -/
def Request.ofCommand (command : String) : Request :=
  if [":quit", ":q", ":exit"].contains command then .quit
  else if [":help", ":h", ":?"].contains command then .help
  else if command = ":globals" then .globals
  else if command = ":reset" then .reset
  else .unknown command

/-- What a line asks for, once its backspaces have done their work and blanks at its ends aside. -/
def Request.ofLine (line : String) : Request :=
  let text := Text.trim (Text.settle (Text.withoutLineEnd line.toList))
  match text with
  | [] => .nothing
  | ':' :: _ => .ofCommand (String.ofList text)
  | _ => .statement (String.ofList text)

/-- What a line leads to. -/
structure Reply where
  /-- What is said. -/
  messages : List Message
  /-- The session afterwards. -/
  session : Session
  /-- Whether the prompt goes on. -/
  goesOn : Bool

/-- What is said about the value of a statement: nothing if it is null. -/
def sayValue (session : Session) : Value → List Message
  | .null => []
  | value => [.line (session.state.heap.render value)]

/-- Run a statement: first what it prints, then its value or its failure. -/
def runStatement (bound : Nat) (session : Session) (text : String) : Option Reply := do
  let before := session.state.sink.written.size
  let (result, session) ← session.eval bound text
  let printed := session.state.sink.textSince before
  let said := match result with
    | .ok value => sayValue session value
    | .error failure => [.err (failure.display ++ "\n")]
  some ⟨.out printed :: said, session, true⟩

/-- Answer a request. -/
def answer (bound : Nat) (session : Session) : Request → Option Reply
  | .nothing => some ⟨[], session, true⟩
  | .quit => some ⟨farewell, session, false⟩
  | .help => some ⟨help, session, true⟩
  | .globals =>
    let lines := session.describeGlobals
    let said := if lines.isEmpty then [.line "(no globals)"] else lines.map .line
    some ⟨said, session, true⟩
  | .reset => some ⟨[.line "Global scope cleared."], session.reset, true⟩
  | .unknown command =>
    some ⟨[.line ("Unknown command: " ++ command), .line "Type :help for help."], session, true⟩
  | .statement text => runStatement bound session text

/-- Answer lines in order until one of them ends the prompt or they are used up. -/
def answerAll (bound : Nat) : Session → List String → Option (List Message)
  | _, [] => some farewell
  | session, line :: rest => do
    let reply ← answer bound session (.ofLine line)
    if reply.goesOn then
      return reply.messages ++ (← answerAll bound reply.session rest)
    else return reply.messages

/-- Everything that a prompt says when it is fed the lines. -/
def transcript (bound : Nat) (session : Session) (lines : List String) :
    Option (List Message) := do
  return banner ++ (← answerAll bound session lines)

/-- The lines of an input text. A line feed ends a line, and a last line may do without. -/
def linesOf (input : String) : List String :=
  (Text.lines input.toList).map String.ofList

end Prompt

end SlotLang
