import SlotLang.Proofs.Machine.Bound
import SlotLang.Proofs.Machine.Output

/-!
# The limit on nested calls

A run under a low limit on nested calls and the same run under a higher one do the same, step by
step, until the low limit stops the one. Here the two runs are compared until then. Of what the
other run does after that nothing is said but that its output only grows, so what had been printed
when the low limit was met stays at the front of what is printed in the end.
-/

namespace SlotLang

/-! ## Runs cut short -/

namespace CutShort

variable {α β γ δ : Type}

/-- However the outcome ends, its output continues that of `s`. An interrupted run leaves no output
to be judged. -/
def Prints (s : State) (outcome : Outcome α) : Prop :=
  ∀ t, outcome.state? = some t → s.sink.Grows t.sink

/-- The output only grows. -/
def Extending (action : Action α) : Prop :=
  ∀ s, Prints s (action s)

/-- Two outcomes from one state. They are the same, or the left run has met its limit on nested
calls and the right one printed at least as much. -/
inductive Outcomes (V : α → β → Prop) : Outcome α → Outcome β → Prop where
  /-- Related values in the same state. -/
  | done {value : α} {value' : β} (same : V value value') (s : State) :
      Outcomes V (.done value s) (.done value' s)
  /-- The same fault in the same state. -/
  | failed (fault : Fault) (s : State) : Outcomes V (.failed fault s) (.failed fault s)
  /-- Both were interrupted. -/
  | interrupted : Outcomes V .interrupted .interrupted
  /-- The limit stopped the left run, and the right one may print more. -/
  | overflow (limit : Nat) {s : State} {outcome : Outcome β} (more : Prints s outcome) :
      Outcomes V (.failed (.stackOverflow limit) s) outcome

/-- The left action is the right one, unless it is cut short by the limit on nested calls. Then the
right one goes on, and what it prints comes after what is printed already. -/
structure Shortens (V : α → β → Prop) (left : Action α) (right : Action β) : Prop where
  /-- The outcome is the same, or the left one is an overflow. -/
  outcomes : ∀ s, Outcomes V (left s) (right s)
  /-- What the right one prints is only added. -/
  extending : Extending right

/-- All that a run can do to the state only adds to the output, so any action of a run does. -/
theorem extending_of_evolving {σ : Settings} {action : Action α}
    (evolving : Evolution.Evolving σ action) : Extending action :=
  fun s t reached => (evolving s t reached).sink_grows

/-- What an action prints comes after what was printed before it. -/
theorem Prints.bind {s : State} {first : Outcome α} (start : Prints s first)
    {next : α → Action β} (later : ∀ value, Extending (next value)) :
    Prints s (Action.bind (fun _ => first) next s) := by
  intro t reached
  cases first with
  | done value u => exact (start u rfl).trans (later value u t reached)
  | failed fault u => exact start t reached
  | interrupted => cases reached

/-- Two actions in sequence only add to the output if each does. -/
theorem extending_bind {first : Action α} {next : α → Action β} (start : Extending first)
    (later : ∀ value, Extending (next value)) : Extending (first >>= next) :=
  fun s => (start s).bind later

/-- An action that the limit does not concern is the same under both limits. All operations but
calls are such. -/
theorem shortens_same {V : α → α → Prop} (refl : ∀ value, V value value) {action : Action α}
    (extending : Extending action) : Shortens V action action := by
  refine ⟨fun s => ?_, extending⟩
  cases action s with
  | done value t => exact .done (refl value) t
  | failed fault t => exact .failed fault t
  | interrupted => exact .interrupted

/-- Where the first action was not cut short, the second begins in the same state. Where it was, the
left run has ended, and the right one goes on and only adds to the output. -/
theorem shortens_bind {V : α → β → Prop} {W : γ → δ → Prop} {first : Action α}
    {first' : Action β} {next : α → Action γ} {next' : β → Action δ}
    (total : Comparison.RightTotal V) (firsts : Shortens V first first')
    (nexts : ∀ value value', V value value' → Shortens W (next value) (next' value')) :
    Shortens W (first >>= next) (first' >>= next') := by
  have extending (value' : β) : Extending (next' value') := by
    obtain ⟨value, same⟩ := total value'
    exact (nexts value value' same).extending
  refine ⟨fun s => ?_, extending_bind firsts.extending extending⟩
  have ends := firsts.outcomes s
  show Outcomes W (Action.bind first next s) (Action.bind first' next' s)
  unfold Action.bind
  generalize first s = ended, first' s = ended' at ends ⊢
  cases ends with
  | done same t => exact (nexts _ _ same).outcomes t
  | failed fault t => exact .failed fault t
  | interrupted => exact .interrupted
  | overflow limit more => exact .overflow limit (more.bind extending)

/-! ### Calls -/

/-- What is printed does not depend on the rest of the state. -/
theorem Prints.mapState {s s' : State} {outcome : Outcome α} (more : Prints s outcome)
    (sameStart : s'.sink = s.sink) {f : State → State} (sameSink : ∀ t, (f t).sink = t.sink) :
    Prints s' (outcome.mapState f) := by
  apply Outcome.forall_state?_mapState
  intro t ended
  rw [sameStart, sameSink]
  exact more t ended

/-- Outcomes stay related when the rest of their states is changed in the same way on both sides. -/
theorem Outcomes.mapState {V : α → β → Prop} {outcome : Outcome α} {outcome' : Outcome β}
    (ends : Outcomes V outcome outcome') {f : State → State}
    (sameSink : ∀ t, (f t).sink = t.sink) :
    Outcomes V (outcome.mapState f) (outcome'.mapState f) := by
  cases ends with
  | done same t => exact .done same (f t)
  | failed fault t => exact .failed fault (f t)
  | interrupted => exact .interrupted
  | overflow limit more => exact .overflow limit (more.mapState (sameSink _) sameSink)

/-- A call only adds to the output if its body does; a refused one prints nothing. -/
theorem extending_enter (σ : Settings) (scope : Scope) {body : Action Value}
    (extending : Extending body) : Extending (Eval.enter σ scope body) := by
  intro s
  by_cases within : s.depth < σ.maxCallDepth
  · rw [Eval.enter_of_within within]
    exact (extending _).mapState rfl fun _ => rfl
  · rw [Eval.enter_of_deep (Nat.le_of_not_lt within)]
    rintro t ⟨⟩
    exact .refl _

/-- A call under the lower limit is the call under the higher one unless the lower limit is met: by
this call, or by one inside it. -/
theorem shortens_enter {σ σ' : Settings} (raised : σ.maxCallDepth ≤ σ'.maxCallDepth)
    (scope : Scope) {V : Value → Value → Prop} {body body' : Action Value}
    (bodies : Shortens V body body') :
    Shortens V (Eval.enter σ scope body) (Eval.enter σ' scope body') := by
  have extending := extending_enter σ' scope bodies.extending
  refine ⟨fun s => ?_, extending⟩
  by_cases within : s.depth < σ.maxCallDepth
  · rw [Eval.enter_of_within within, Eval.enter_of_within (Nat.lt_of_lt_of_le within raised)]
    exact (bodies.outcomes _).mapState fun _ => rfl
  · rw [Eval.enter_of_deep (Nat.le_of_not_lt within)]
    exact .overflow _ (extending s)

/-! ### Evaluation -/

/-- Runs of which the left one may be cut short. All code is admitted. -/
def comparison : Comparison :=
  .plain (fun _ => True) Shortens

/-- Actions of the comparison may be put together. -/
theorem composes : comparison.Composes := by
  apply Comparison.plain_composes
  case pure =>
    intro _ _ _ value value' same
    refine ⟨fun s => .done same s, ?_⟩
    rintro s _ ⟨⟩
    exact .refl _
  case fail =>
    intro _ _ _ fault
    refine ⟨fun s => .failed fault s, ?_⟩
    rintro s _ ⟨⟩
    exact .refl _
  case bind => exact shortens_bind

/-- So the comparison is a congruence for settings that agree on the capacities of new tables; about
the limit nothing is asked yet. -/
theorem congruence {σ σ' : Settings} (sameLocals : σ.localCapacity = σ'.localCapacity)
    (sameObjects : σ.objectCapacity = σ'.objectCapacity) : comparison.Congruence σ σ' := by
  have operation {α : Type} {V : α → α → Prop} {action : Action α}
      (operation : Comparison.Operation (fun _ => True) action) (refl : ∀ value, V value value) :
      Shortens V action action :=
    shortens_same refl (extending_of_evolving (σ := σ) (Evolution.evolving_operation operation))
  apply Comparison.plain_congruence sameLocals sameObjects composes operation
  intro id name evaluate evaluate' evaluated
  apply composes.replaceSlot (operation (.readSlot id name) Comparison.plain_values) evaluated
  intro v v' same
  cases Value.Corresponds.iff_eq.mp same
  apply shortens_same fun _ => rfl
  rintro s _ ⟨⟩
  exact .refl _

end CutShort

/-- Settings that differ at most in the limit on nested calls, which is no lower on the right. All
numbers of buckets are the same. -/
structure Settings.RaisesLimit (σ σ' : Settings) : Prop where
  /-- All but the limit is the same. -/
  same : { σ with maxCallDepth := σ'.maxCallDepth } = σ'
  /-- The limit on the right is no lower. -/
  raised : σ.maxCallDepth ≤ σ'.maxCallDepth

/-- Code under the lower limit does what it does under the higher one until it is cut short. The
induction is on the bound, which is the same on both sides. -/
theorem CutShort.shortens_eval {σ σ' : Settings} (raises : σ.RaisesLimit σ') (bound : Nat)
    (code : Code) : Shortens comparison.Values (eval σ bound code) (eval σ' bound code) := by
  have laws : comparison.Congruence σ σ' := by
    apply congruence
    · rw [← raises.same]
    · rw [← raises.same]
  apply Comparison.actions_eval laws 0
  case named => exact fun _ => trivial
  case sameRoutines => exact .rfl
  case entered =>
    rintro scope _ body body' rfl bodies
    exact shortens_enter raises.raised scope bodies
  case stopped =>
    intro action interrupt
    rw [interrupt rfl]
    exact shortens_same Comparison.plain_values fun _ _ reached => by cases reached

/-- Under the lower limit a run ends as under the higher one, or it meets the lower limit and has
printed less. -/
theorem CutShort.eval_cases {σ σ' : Settings} (raises : σ.RaisesLimit σ') (bound : Nat)
    (code : Code) (s : State) :
    eval σ bound code s = eval σ' bound code s ∨
      ∃ limit t, eval σ bound code s = .failed (.stackOverflow limit) t ∧
        Prints t (eval σ' bound code s) := by
  have ends := (shortens_eval raises bound code).outcomes s
  generalize eval σ bound code s = outcome, eval σ' bound code s = outcome' at ends ⊢
  cases ends with
  | done same t =>
    cases Value.Corresponds.iff_eq.mp same
    exact .inl rfl
  | failed fault t => exact .inl rfl
  | interrupted => exact .inl rfl
  | overflow limit more => exact .inr ⟨limit, _, rfl, more⟩

/-- A higher limit on nested calls only takes away overflows. A run that ends otherwise ends in the
same outcome under the higher limit, and the output of a run that overflows is a first part of the
output under the higher limit, if that run ends at all. -/
theorem raised_limit_removes_overflow {σ σ' : Settings} (raises : σ.RaisesLimit σ') {code : Code}
    {s : State} {outcome : Outcome Value} (ends : Ends σ code s outcome) :
    ((∀ fault, outcome.fault? = some fault → fault.kind ≠ .stackOverflow) →
      Ends σ' code s outcome) ∧
    ∀ fault t outcome' t', outcome = .failed fault t → fault.kind = .stackOverflow →
      Ends σ' code s outcome' → outcome'.state? = some t' →
      ∃ more, t'.sink.text = t.sink.text ++ more := by
  obtain ⟨uninterrupted, bound, rfl⟩ := ends
  constructor
  · intro fits
    rcases CutShort.eval_cases raises bound code s with same | ⟨limit, t, stopped, _⟩
    · exact ⟨uninterrupted, bound, same.symm⟩
    · exact absurd rfl (fits (.stackOverflow limit) (by rw [stopped]; rfl))
  · rintro fault t _ t' stopped _ ⟨uninterrupted', bound', rfl⟩ reached
    apply Sink.Grows.text
    -- Both runs are looked at within a bound that is large enough for each.
    rw [← eval_eq_of_le (Nat.le_max_left bound bound') uninterrupted] at stopped
    rw [← eval_eq_of_le (Nat.le_max_right bound bound') uninterrupted'] at reached
    rcases CutShort.eval_cases raises (max bound bound') code s with
      same | ⟨limit, u, stopped', more⟩
    · rw [← same, stopped] at reached
      cases reached
      exact .refl _
    · rw [stopped] at stopped'
      cases stopped'
      exact more t' reached

/-- Two functions print, and the second, called by the first, then fails for want of an argument. A
limit of one call stops the run before the second function prints. -/
theorem raised_limit_removes_overflow_nested :
    let limited (calls : Nat) : Settings := { Settings.default with maxCallDepth := calls }
    let inner : Routine := ⟨"g", [], .seq (.expr (.printf "g" [])) (.expr (.printf "~" []))⟩
    let outer : Routine := ⟨"f", [], .seq (.expr (.printf "f" [])) (.expr (.call "g" []))⟩
    let s : State := { State.initial (limited 1) .unlimited with
      globals := ((Table.empty 1).insert "f" (.routine outer)).insert "g" (.routine inner) }
    let code : Code := .expr (.call "f" [])
    ∃ t t', Ends (limited 1) code s (.failed (.stackOverflow 1) t) ∧
      Ends (limited 2) code s (.failed (.arityMismatch "printf" 1 0) t') ∧
      (∃ more, t'.sink.text = t.sink.text ++ more) ∧
      Ends (limited 3) code s (.failed (.arityMismatch "printf" 1 0) t') := by
  intro limited inner outer s code
  have raises (calls : Nat) : (limited calls).RaisesLimit (limited (calls + 1)) :=
    ⟨rfl, Nat.le_succ calls⟩
  obtain ⟨t, overflowed⟩ : ∃ t, eval (limited 1) 9 code s = .failed (.stackOverflow 1) t :=
    Outcome.eq_failed (by decide +kernel)
  obtain ⟨t', refused⟩ :
      ∃ t', eval (limited 2) 9 code s = .failed (.arityMismatch "printf" 1 0) t' :=
    Outcome.eq_failed (by decide +kernel)
  have ends : Ends (limited 1) code s (.failed (.stackOverflow 1) t) :=
    ⟨by simp, 9, overflowed⟩
  have ends' : Ends (limited 2) code s (.failed (.arityMismatch "printf" 1 0) t') :=
    ⟨by simp, 9, refused⟩
  refine ⟨t, t', ends, ends', ?_, ?_⟩
  · exact (raised_limit_removes_overflow (raises 1) ends).2 _ t _ t' rfl rfl ends' rfl
  · apply (raised_limit_removes_overflow (raises 2) ends').1
    rintro fault ⟨⟩
    decide

end SlotLang
