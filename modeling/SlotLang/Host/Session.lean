import SlotLang.Machine.Display
import SlotLang.Machine.Eval
import SlotLang.Program.Source

/-!
# Sessions

A session runs one statement after the other over a global scope that it keeps. A text that is no
program changes nothing, and what a statement did before it failed stays done.
-/

namespace SlotLang

/-- Settings and the state that statements leave behind. -/
structure Session where
  /-- The settings of every run. -/
  settings : Settings
  /-- The state after the last statement. -/
  state : State

namespace Session

/-- A session in which nothing has run. -/
def start (settings : Settings) (sink : Sink) : Session :=
  ⟨settings, State.initial settings sink⟩

/-- Read and run one statement: the value or the failure, and the session after it. None if the
bound is too small for the run. -/
def eval (bound : Nat) (session : Session) (input : String) :
    Option (Except HostError Value × Session) :=
  match Stmt.decode input with
  | .error failure => some (.error failure, session)
  | .ok program =>
    match runIn session.settings bound program session.state with
    | .done value state => some (.ok value, { session with state })
    | .failed fault state => some (.error (.runtime fault), { session with state })
    | .interrupted => none

/-- Forget every global name. -/
def reset (session : Session) : Session :=
  { session with state := { session.state with globals := session.state.globals.clear } }

/-- One line for every global name, in the order of the names. -/
def describeGlobals (session : Session) : List String :=
  session.state.heap.describe session.state.globals

end Session

end SlotLang
