import SlotLang.Machine.Eval

/-!
# Outcomes

What an outcome leaves behind, and how the outcome of a call comes from that of the body which is
called. A call that finds the limit reached is refused where it stands. Any other ends as its body
does, with a state that is put right for the caller. Whatever is said of all calls rests on these
two equations.
-/

namespace SlotLang

namespace Outcome

variable {α : Type}

/-- The state that an outcome leaves, if it is not interrupted. A fault leaves one as a value
does. -/
def state? : Outcome α → Option State
  | .done _ state => some state
  | .failed _ state => some state
  | .interrupted => none

/-- The fault that an outcome ends in, if it does. -/
def fault? : Outcome α → Option Fault
  | .failed fault _ => some fault
  | .done _ _ | .interrupted => none

/-- The value that an outcome ends with, if it does. -/
def value? : Outcome α → Option α
  | .done value _ => some value
  | .failed _ _ | .interrupted => none

/-- An outcome that has a value ended with it, in some state. -/
theorem eq_done {outcome : Outcome α} {value : α} (done : outcome.value? = some value) :
    ∃ t, outcome = .done value t := by
  cases outcome with
  | done found t =>
    cases done
    exact ⟨t, rfl⟩
  | failed | interrupted => cases done

/-- An outcome that has a fault failed with it, in some state. -/
theorem eq_failed {outcome : Outcome α} {fault : Fault} (failed : outcome.fault? = some fault) :
    ∃ t, outcome = .failed fault t := by
  cases outcome with
  | failed found t =>
    cases failed
    exact ⟨t, rfl⟩
  | done | interrupted => cases failed

/-! ## Another state -/

/-- An outcome with another state. -/
def mapState (f : State → State) : Outcome α → Outcome α
  | .done value state => .done value (f state)
  | .failed fault state => .failed fault (f state)
  | .interrupted => .interrupted

variable {f g : State → State} {outcome : Outcome α}

/-- Changing the state that is left does not change whether the run was interrupted. -/
@[simp] theorem mapState_eq_interrupted : outcome.mapState f = .interrupted ↔
    outcome = .interrupted := by
  cases outcome <;> simp [mapState]

/-- Nor whether it came to an end. -/
theorem mapState_ne_interrupted : outcome.mapState f ≠ .interrupted ↔ outcome ≠ .interrupted :=
  not_congr mapState_eq_interrupted

/-- Only the state that the outcome leaves matters. -/
theorem mapState_congr (same : ∀ t, outcome.state? = some t → f t = g t) :
    outcome.mapState f = outcome.mapState g := by
  cases outcome with
  | done value t => exact congrArg (done value) (same t rfl)
  | failed fault t => exact congrArg (failed fault) (same t rfl)
  | interrupted => rfl

/-- The state that is left is the changed one, if there is one at all. -/
theorem state?_mapState : (outcome.mapState f).state? = outcome.state?.map f := by
  cases outcome <;> rfl

/-- What holds of the state that is left once it is changed, holds of the changed state. -/
theorem forall_state?_mapState {P : State → Prop}
    (holds : ∀ t, outcome.state? = some t → P (f t)) :
    ∀ t, (outcome.mapState f).state? = some t → P t := by
  intro t reached
  rw [state?_mapState] at reached
  obtain ⟨u, left, rfl⟩ := Option.map_eq_some_iff.mp reached
  exact holds u left

end Outcome

namespace Eval

/-! ## Calls -/

variable {σ : Settings} {scope : Scope} {body : Action Value} {s : State}

/-- A call at the limit fails where it stands: the body is not evaluated and the state is as it
was. -/
theorem enter_of_deep (deep : σ.maxCallDepth ≤ s.depth) :
    enter σ scope body s = .failed (.stackOverflow σ.maxCallDepth) s :=
  if_pos deep

/-- The body starts one level deeper and in a scope of its own. When it ends, the caller has its
scope again and the call is counted off. -/
theorem enter_of_within (within : s.depth < σ.maxCallDepth) :
    enter σ scope body s =
      (body { s with locals := some scope, depth := s.depth + 1 }).mapState fun t =>
        { t with locals := s.locals, depth := t.depth - 1 } := by
  unfold enter
  rw [if_neg (Nat.not_le.mpr within)]
  dsimp only
  cases body { s with locals := some scope, depth := s.depth + 1 } <;> rfl

/-- A call is interrupted if its body is. -/
theorem enter_eq_interrupted_iff :
    enter σ scope body s = .interrupted ↔ s.depth < σ.maxCallDepth ∧
      body { s with locals := some scope, depth := s.depth + 1 } = .interrupted := by
  by_cases within : s.depth < σ.maxCallDepth
  · simp [enter_of_within within, within]
  · simp [enter_of_deep (Nat.le_of_not_lt within), within]

end Eval

end SlotLang
