import SlotLang.Host.File
import SlotLang.Host.Prompt
import SlotLang.Program.Dump
import SlotLang.Settings.Source

/-!
# The command line

What each command does, given the texts of the files it reads. Settings are read before the program;
a file that cannot be read or understood ends the command. A program's output and, after it, the
fault that stopped it go to the output.
-/

namespace SlotLang

namespace CommandLine

/-- A command. -/
inductive Command where
  /-- Run a program. -/
  | run (program : File) (settings : Option File)
  /-- Show a program. -/
  | dump (program : File)
  /-- Answer lines of input. -/
  | repl (settings : Option File) (lines : List String)

/-- What goes to the errors. -/
inductive Notice where
  /-- Plain text. -/
  | text (text : String)
  /-- The failure to understand a file's text. -/
  | report (file : File) (failure : HostError)

/-- What a command leads to. -/
structure Result where
  /-- Whether it succeeded. -/
  success : Bool
  /-- The text on the output. -/
  out : String
  /-- What goes to the errors. -/
  err : List Notice

/-- The result of a command that ends before it runs anything. -/
def Result.refused (notice : Notice) : Result :=
  ⟨false, "", [notice]⟩

/-- Read a file and decode its text, or say why not. -/
def load {α : Type} (file : File) (decode : String → Except HostError α) : Except Notice α :=
  match file.text with
  | .error failure => .error (.text ("Error: " ++ failure.display ++ "\n"))
  | .ok text => (decode text).mapError (.report file)

/-- The settings of a file, or the default ones if there is no file. -/
def loadSettings : Option File → Except Notice Settings
  | none => .ok Settings.default
  | some file => load file Settings.decode

/-- Run a program. -/
def runProgram (bound : Nat) (settings : Settings) (program : Stmt) : Option Result :=
  match SlotLang.run settings bound program (State.initial settings .unlimited) with
  | .done _ state => some ⟨true, state.sink.text, []⟩
  | .failed fault state => some ⟨false, state.sink.text ++ fault.display ++ "\n", []⟩
  | .interrupted => none

/-- Answer lines of input. -/
def runPrompt (bound : Nat) (settings : Settings) (lines : List String) : Option Result := do
  let messages ← Prompt.transcript bound (Session.start settings .unlimited) lines
  let errors := Message.errText messages
  some ⟨true, Message.outText messages, if errors.isEmpty then [] else [.text errors]⟩

/-- Carry out a command. None if the bound is too small for the runs in it. -/
def execute (bound : Nat) : Command → Option Result
  | .run file settingsFile =>
    match loadSettings settingsFile with
    | .error notice => some (.refused notice)
    | .ok settings =>
      match load file Stmt.decode with
      | .error notice => some (.refused notice)
      | .ok program => runProgram bound settings program
  | .dump file =>
    match load file Stmt.decode with
    | .error notice => some (.refused notice)
    | .ok program => some ⟨true, program.dump ++ "\n", []⟩
  | .repl settingsFile lines =>
    match loadSettings settingsFile with
    | .error notice => some (.refused notice)
    | .ok settings => runPrompt bound settings lines

end CommandLine

end SlotLang
