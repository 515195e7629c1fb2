import SlotLang.Machine.Fault
import SlotLang.Text.Span

/-!
# What a host is told when something fails

Loading a program, reading settings and running a program fail in ways of their own. A failure to
read a text may point into it.
-/

namespace SlotLang

/-- A failure as a host sees it. -/
inductive HostError where
  /-- A file could not be read. -/
  | io (message : String)
  /-- A text is no program. -/
  | decode (message : String) (span : Option Span)
  /-- A text holds no settings. -/
  | config (message : String) (span : Option Span)
  /-- A program stopped. -/
  | runtime (fault : Fault)
  deriving DecidableEq

namespace HostError

/-- What the failure says. -/
def message : HostError → String
  | io message => message
  | decode message _ => message
  | config message _ => message
  | runtime fault => fault.message

/-- The part of the text that the failure points at. -/
def span : HostError → Option Span
  | io _ => none
  | decode _ span => span
  | config _ span => span
  | runtime _ => none

/-- The failure as one line. -/
def display : HostError → String
  | io message => "IO error: " ++ message
  | decode message _ => "AST decode error: " ++ message
  | config message _ => "Config error: " ++ message
  | runtime fault => fault.display

end HostError

end SlotLang
