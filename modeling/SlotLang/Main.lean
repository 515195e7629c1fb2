import SlotLang.Host.CommandLine

/-!
# The program

Reads the files and lines that a command needs, carries the command out and prints what it leads to.
-/

namespace SlotLang.Main

/-- A bound that no run reaches. -/
def bound : Nat := Nat.pow 2 62

/-- Read a file. -/
def readFile (name : String) : IO File := do
  try
    return ⟨name, .ok (← IO.FS.readFile name)⟩
  catch
    | .noFileOrDirectory .. => return ⟨name, .error .missing⟩
    | trouble => return ⟨name, .error (.other (toString trouble))⟩

/-- Say a message. -/
def say : Message → IO Unit
  | .out text => IO.print text
  | .err text => IO.eprint text

/-- Answer lines as they come. -/
partial def answerLines (input : IO.FS.Stream) (session : Session) : IO Unit := do
  let line ← input.getLine
  if line.isEmpty then Prompt.farewell.forM say
  else
    match Prompt.answer bound session (.ofLine line) with
    | none => return
    | some reply =>
      reply.messages.forM say
      (← IO.getStdout).flush
      if reply.goesOn then answerLines input reply.session

/-- Print a notice. -/
def printNotice : CommandLine.Notice → IO Unit
  | .text text => IO.eprint text
  | .report file failure => IO.eprintln (file.name ++ ": " ++ failure.display)

/-- Print the result of a command. -/
def finish : Option CommandLine.Result → IO UInt32
  | none => return 1
  | some result => do
    IO.print result.out
    result.err.forM printNotice
    return if result.success then 0 else 1

/-- Start a prompt on the standard input. -/
def startPrompt (settings : Option File) : IO UInt32 := do
  match CommandLine.loadSettings settings with
  | .error notice => finish (some (.refused notice))
  | .ok settings =>
    Prompt.banner.forM say
    answerLines (← IO.getStdin) (Session.start settings .unlimited)
    return 0

/-- Carry out the command that the arguments give. -/
def start : List String → IO UInt32
  | ["run", file] => do
    finish (CommandLine.execute bound (.run (← readFile file) none))
  | ["run", file, "--config", settings] => do
    finish (CommandLine.execute bound (.run (← readFile file) (some (← readFile settings))))
  | ["dump", file] => do
    finish (CommandLine.execute bound (.dump (← readFile file)))
  | ["repl"] => startPrompt none
  | ["repl", "--config", settings] => do startPrompt (some (← readFile settings))
  | _ => do
    IO.eprintln "usage: run FILE [--config FILE] | dump FILE | repl [--config FILE]"
    return 2

end SlotLang.Main

/-- The entry point of the program. -/
def main (args : List String) : IO UInt32 :=
  SlotLang.Main.start args
