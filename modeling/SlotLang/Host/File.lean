import SlotLang.Host.Error

/-!
# Files as a host hands them over

A file is its name and its text, or the trouble that kept the text from being read. Nothing here
touches a file system.
-/

namespace SlotLang

/-- Why a file's text could not be read. -/
inductive FileTrouble where
  /-- There is no such file. -/
  | missing
  /-- It is a directory. -/
  | directory
  /-- Anything else, in the system's words. -/
  | other (message : String)
  deriving DecidableEq

/-- The system's words for a trouble. -/
def FileTrouble.message : FileTrouble → String
  | missing => "No such file or directory (os error 2)"
  | directory => "Is a directory (os error 21)"
  | other message => message

/-- A file. -/
structure File where
  /-- The name it is asked for by. -/
  name : String
  /-- Its text, or why there is none. -/
  content : Except FileTrouble String

namespace File

/-- The file's text. -/
def text (file : File) : Except HostError String :=
  file.content.mapError fun trouble => .io (file.name ++ ": " ++ trouble.message)

end File

end SlotLang
