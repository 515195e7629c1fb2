import SlotLang.Machine.Heap
import SlotLang.Machine.Sink

/-!
# States and actions

The state of a run is its scopes, its heap, its sink and the number of active calls. An action is a
piece of a run: from a state it ends in a value or in a fault, with the state it leaves either way,
or it is interrupted because the bound on its length was too small.
-/

namespace SlotLang

/-- The state of a run. -/
structure State where
  /-- The global scope. -/
  globals : Scope
  /-- The local scope, while a routine's body runs. -/
  locals : Option Scope
  /-- The arrays and objects. -/
  heap : Heap
  /-- The printed output. -/
  sink : Sink
  /-- How many calls are active. -/
  depth : Nat

/-- How an action ends. -/
inductive Outcome (α : Type) where
  /-- With a value. -/
  | done (value : α) (state : State)
  /-- With a fault. -/
  | failed (fault : Fault) (state : State)
  /-- Not within the bound it was given. -/
  | interrupted

/-- A piece of a run. -/
def Action (α : Type) : Type :=
  State → Outcome α

namespace Action

variable {α β : Type}

/-- End with a value and change nothing. -/
@[inline] protected def pure (value : α) : Action α :=
  fun state => .done value state

/-- One action, then another that depends on its value. A fault ends both. -/
@[inline] protected def bind (first : Action α) (next : α → Action β) : Action β :=
  fun state =>
    match first state with
    | .done value state => next value state
    | .failed fault state => .failed fault state
    | .interrupted => .interrupted

/-- Actions are put one after the other by `Action.bind`, and an action that does nothing is
`Action.pure`. -/
instance : Monad Action where
  pure := Action.pure
  bind := Action.bind

/-- Sequences of actions nest in either way, and an action that does nothing may be left out. -/
instance : LawfulMonad Action :=
  LawfulMonad.mk' Action
    (by
      intro α first
      funext state
      show Action.bind first _ state = first state
      unfold Action.bind
      cases first state <;> rfl)
    (by intros; rfl)
    (by
      intro α β γ first next last
      funext state
      show Action.bind (Action.bind first next) last state =
        Action.bind first (fun value => Action.bind (next value) last) state
      unfold Action.bind
      cases first state <;> rfl)

/-- End with a fault. -/
@[inline] def fail (fault : Fault) : Action α :=
  fun state => .failed fault state

/-- End without an answer. -/
@[inline] def interrupt : Action α :=
  fun _ => .interrupted

/-- Look at the state. -/
@[inline] def look (view : State → α) : Action α :=
  fun state => .done (view state) state

/-- Change the state. -/
@[inline] def change (f : State → State) : Action Unit :=
  fun state => .done () (f state)

/-- A computation that may fault and neither sees nor changes the state. -/
@[inline] def ofExcept : Except Fault α → Action α
  | .ok value => Action.pure value
  | .error fault => fail fault

end Action

end SlotLang
