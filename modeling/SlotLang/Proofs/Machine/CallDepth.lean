import SlotLang.Proofs.Machine.Bound
import SlotLang.Proofs.Machine.Evolution

/-!
# The depth of calls

The depth of a state is the number of active calls. A call raises it by one for its body and lowers
it by one afterwards, however the body ended, so every evaluation leaves the depth that it found.

That bodies run only at depths from one up to the limit, and that no depth is lowered that is zero
already, concerns the middle of a run, of which its outcome says nothing. It is shown by putting the
body of every call under guard. A guarded run fails with an alarm as soon as a body starts or ends
at a depth that it must not have, and any fault may serve as the alarm. The guarded run is the run.
-/

namespace SlotLang

/-- Whatever happens to a state leaves its depth: calls that were begun are over. -/
theorem State.Evolves.depth_eq {σ : Settings} {s t : State} (evolves : s.Evolves σ t) :
    t.depth = s.depth := by
  induction evolves with
  | refl | print | addArray | updateArray | addObject | putSlot | bindGlobal => rfl
  | trans _ _ first second => exact second.trans first
  | declare s name value =>
    obtain ⟨scope, _, same⟩ | same := s.declare_cases name value
    · rw [same]
    · rw [same]
      rfl
  | assign assigned =>
    obtain ⟨scope, _, rfl⟩ | rfl := State.assign_cases assigned
    · rfl
    · rfl
  | call _ _ body =>
    simp only at body ⊢
    omega

/-! ## Guarded runs -/

namespace Eval

/-- Run the body of a call. It must start at a depth from one up to the limit, and it must not end
at depth zero, from which the call could not be counted off. -/
def guardBody (σ : Settings) (alarm : Fault) (body : Action Value) : Action Value := fun state =>
  if 1 ≤ state.depth ∧ state.depth ≤ σ.maxCallDepth then
    match body state with
    | .done value state => if 1 ≤ state.depth then .done value state else .failed alarm state
    | .failed fault state => .failed (if 1 ≤ state.depth then fault else alarm) state
    | .interrupted => .interrupted
  else .failed alarm state

/-- The evaluator for what is inside `code`, with the body of a call under guard. A call evaluates
its receiver and its arguments, which are expressions, and one body, which is a statement; no other
construct runs a body. -/
def guardCalls (σ : Settings) (alarm : Fault) (run : Evaluator) (code : Code) : Evaluator :=
  match code with
  | .expr (.call _ _) | .expr (.callSlot _ _ _) => fun
    | .expr e => run (.expr e)
    | .stmt body => guardBody σ alarm (run (.stmt body))
  | _ => run

end Eval

/-- Run code as `eval` does, with the bodies of all calls under guard. A body that starts at a depth
at which none may start, or ends at another depth, raises the alarm. -/
def guardedEval (σ : Settings) (alarm : Fault) : Nat → Evaluator
  | 0, _ => Action.interrupt
  | bound + 1, code =>
    Eval.step σ bound (Eval.guardCalls σ alarm (guardedEval σ alarm bound) code) code

namespace Eval

variable {σ : Settings} {run run' : Evaluator}

/-- What code does depends only on what its parts do and on what the calls of routines do. By cases
on the construct. -/
theorem step_congr {code : Code} (bound : Nat) (parts : ∀ part ∈ code.parts, run part = run' part)
    (called : ∀ scope body, enter σ scope (run (.stmt body)) = enter σ scope (run' (.stmt body))) :
    step σ bound run code = step σ bound run' code := by
  have follows {run run' : Evaluator} (parts : ∀ part ∈ code.parts, run part = run' part)
      (called : ∀ scope body,
        enter σ scope (run (.stmt body)) = enter σ scope (run' (.stmt body))) :
      Correspondence.identical.Follows Correspondence.identical.Values (step σ bound run code)
        (step σ bound run' code) := by
    have same (action : Action Value) :=
      Correspondence.identical_follows (fun _ => Correspondence.identical_values.mpr rfl) action
    have laws := Correspondence.congruence (Correspondence.identical_respected σ)
    have runs (part : Code) (inside : part ∈ code.parts) :
        Correspondence.identical.Follows Correspondence.identical.Values (run part)
          (run' part) := by
      rw [parts part inside]
      exact same _
    apply Comparison.actions_step laws
    case parts => exact runs
    case named => exact fun _ _ => trivial
    case declared => exact fun _ _ => rfl
    case called =>
      rintro routine _ scope _ rfl rfl
      rw [called]
      exact same _
    case looped =>
      rintro pred body rfl
      exact Comparison.actions_turns laws bound 0 (runs _ (by simp [Code.parts]))
        (runs _ (by simp [Code.parts])) fun _ _ _ => .interrupted _
  exact Correspondence.eq_of_identical_follows (follows parts called)
    (follows (fun part inside => (parts part inside).symm)
      fun scope body => (called scope body).symm)

/-- Parts of code are not under guard: those of a call are expressions. -/
theorem guardCalls_part (alarm : Fault) {code part : Code} (inside : part ∈ code.parts) :
    guardCalls σ alarm run code part = run part := by
  cases part with
  | expr e =>
    unfold guardCalls
    split <;> rfl
  | stmt s =>
    unfold guardCalls
    split
    · simp [Code.parts] at inside
    · simp [Code.parts] at inside
    · rfl

/-- A body that starts at a depth where bodies may start, and leaves the depth it found, is left
alone by the guard. -/
theorem guardBody_eq (alarm : Fault) {body : Action Value} (evolves : Evolution.Evolving σ body)
    {s : State} (counted : 1 ≤ s.depth) (within : s.depth ≤ σ.maxCallDepth) :
    guardBody σ alarm body s = body s := by
  have kept := fun t reached => (evolves s t reached).depth_eq
  unfold guardBody
  rw [if_pos ⟨counted, within⟩]
  generalize body s = ended at kept ⊢
  cases ended with
  | done value t =>
    have left : 1 ≤ t.depth := kept t rfl ▸ counted
    simp only [left, if_true]
  | failed fault t =>
    have left : 1 ≤ t.depth := kept t rfl ▸ counted
    simp only [left, if_true]
  | interrupted => rfl

/-- A call enters its body at a depth from one up to the limit, and a body that leaves the depth it
found leaves one to be counted off. -/
theorem enter_guardBody (alarm : Fault) (scope : Scope) {body : Action Value}
    (evolves : Evolution.Evolving σ body) :
    enter σ scope (guardBody σ alarm body) = enter σ scope body := by
  funext s
  by_cases within : s.depth < σ.maxCallDepth
  · have counted : 1 ≤ s.depth + 1 := Nat.le_add_left 1 s.depth
    rw [enter_of_within within, enter_of_within within,
      guardBody_eq (s := { s with locals := some scope, depth := s.depth + 1 }) alarm evolves
        counted within]
  · have deep : σ.maxCallDepth ≤ s.depth := Nat.le_of_not_lt within
    rw [enter_of_deep deep, enter_of_deep deep]

/-- A call of which the body is guarded is the call. The guard fails only at a depth that a body is
never evaluated at. -/
theorem enter_guardCalls (alarm : Fault) (code : Code)
    (evolves : ∀ code, Evolution.Evolving σ (run code)) (scope : Scope) (body : Stmt) :
    enter σ scope (guardCalls σ alarm run code (.stmt body)) =
      enter σ scope (run (.stmt body)) := by
  unfold guardCalls
  split
  · exact enter_guardBody alarm scope (evolves _)
  · exact enter_guardBody alarm scope (evolves _)
  · rfl

end Eval

/-- No alarm is raised, by induction on the bound: with it none is raised in the parts, and so the
guard of a call sees what it expects. -/
theorem guardedEval_eq (σ : Settings) (alarm : Fault) (bound : Nat) :
    guardedEval σ alarm bound = eval σ bound := by
  induction bound with
  | zero => rfl
  | succ bound inductionHypothesis =>
    funext code
    rw [eval_succ, guardedEval, inductionHypothesis]
    apply Eval.step_congr bound
    · intro part inside
      exact Eval.guardCalls_part alarm inside
    · exact Eval.enter_guardCalls alarm code (Evolution.evolving_eval σ bound)

/-- Calls are counted exactly. From whichever entry point and however it ends, an evaluation leaves
the depth at which it started. On the way, if it ends or not, every body starts at a depth from one
up to the limit and ends at a depth that can be counted off: under guard the run is the same. -/
theorem call_depth_exact (σ : Settings) (bound : Nat) :
    (∀ (entry : Entry) (s t : State), entry.after? σ bound s = some t →
      t.depth = (entry.before σ s).depth) ∧
    ∀ alarm, guardedEval σ alarm bound = eval σ bound := by
  constructor
  · intro entry s t reached
    exact (Entry.evolves reached).depth_eq
  · intro alarm
    exact guardedEval_eq σ alarm bound

/-- The initialiser of a slot, evaluated inside a call, overflows two calls further in. -/
theorem call_depth_exact_overflow :
    let σ := { Settings.default with maxCallDepth := 3 }
    let endless : Routine := ⟨"f", [], .expr (.call "f" [])⟩
    let s : State := { State.initial σ .unlimited with
      globals := (Table.empty 1).insert "f" (.routine endless)
      depth := 1 }
    let slot : Member := .var "x" (.call "f" [])
    (Eval.addMember (eval σ 9) (Table.empty 1) slot s).fault? = some (.stackOverflow 3) ∧
      ∃ t, (Entry.member (Table.empty 1) slot).after? σ 9 s = some t ∧ t.depth = 1 := by
  intro σ endless s slot
  obtain ⟨t, reached⟩ : ∃ t, (Entry.member (Table.empty 1) slot).after? σ 9 s = some t :=
    Option.isSome_iff_exists.mp (by decide +kernel)
  exact ⟨by decide +kernel, t, reached, (call_depth_exact σ 9).1 _ s t reached⟩

end SlotLang
