import SlotLang.Proofs.Machine.Layout

/-!
# Runs in step

A run that follows another one says nothing of it once it is interrupted itself. Where the two runs
have the same bound there is more to say: since no single operation is interrupted, the two are in
step until one of them is interrupted, and then so is the other.
-/

namespace SlotLang

/-- No operation on the state is interrupted. -/
theorem Comparison.Operation.ends {names : String → Prop} {α : Type} {action : Action α}
    (operation : Comparison.Operation names action) (s : State) : action s ≠ .interrupted := by
  have checked {β : Type} (answer : Except Fault β) : Action.ofExcept answer s ≠ .interrupted := by
    cases answer <;> simp [Action.ofExcept, Action.pure, Action.fail]
  cases operation with
  | print text =>
    unfold Eval.print
    split <;> simp
  | applyElements id op operands =>
    unfold Eval.applyElements
    split <;> simp
  | assignValue _ value =>
    unfold Eval.assignValue
    split <;> simp
  | makeArray | slots | makeObject | declare | bindGlobal =>
    simp [Eval.makeArray, Eval.makeObject, Action.look, Action.change]
  | readSlot | findMethod | findFunction | readVariable => exact checked _

namespace Correspondence

variable {R : Correspondence} {α β γ δ : Type}

/-- Corresponding outcomes, where an interrupted one corresponds to an interrupted one. By this
neither run outlasts the other. -/
inductive Together (R : Correspondence) (V : α → β → Prop) : Outcome α → Outcome β → Prop where
  /-- Related values, in related states. -/
  | done {value : α} {value' : β} {s s' : State} (same : V value value')
      (related : R.states s s') : Together R V (.done value s) (.done value' s')
  /-- Related faults, in related states. -/
  | failed {fault fault' : Fault} {s s' : State} (same : R.faults fault fault')
      (related : R.states s s') : Together R V (.failed fault s) (.failed fault' s')
  /-- Both were interrupted. -/
  | interrupted : Together R V .interrupted .interrupted

/-- Corresponding outcomes end together if the right run is interrupted where the left one is. -/
theorem Outcomes.together {V : α → β → Prop} {outcome : Outcome α} {outcome' : Outcome β}
    (matched : R.Outcomes V outcome outcome')
    (stopped : outcome = .interrupted → outcome' = .interrupted) :
    R.Together V outcome outcome' := by
  cases matched with
  | done same related => exact .done same related
  | failed same related => exact .failed same related
  | interrupted outcome =>
    rw [stopped rfl]
    exact .interrupted

/-- Runs that end together are both interrupted, or neither is. -/
theorem Together.interrupted_iff {V : α → β → Prop} {outcome : Outcome α} {outcome' : Outcome β}
    (together : R.Together V outcome outcome') :
    outcome = .interrupted ↔ outcome' = .interrupted := by
  cases together with
  | done | failed => simp
  | interrupted => exact ⟨fun _ => rfl, fun _ => rfl⟩

/-- Two actions are in step: from corresponding states they end together, or are both
interrupted. -/
def InStep (R : Correspondence) (V : α → β → Prop) (left : Action α) (right : Action β) : Prop :=
  ∀ s s', R.states s s' → R.Together V (left s) (right s')

/-- A run that is in step with another follows it. -/
theorem InStep.follows {V : α → β → Prop} {left : Action α} {right : Action β}
    (inStep : R.InStep V left right) : R.Follows V left right := by
  intro s s' related
  have ends := inStep s s' related
  generalize left s = ended, right s' = ended' at ends ⊢
  cases ends with
  | done same related => exact .done same related
  | failed same related => exact .failed same related
  | interrupted => exact .interrupted _

/-- An operation that follows another is in step with it, because no operation is ever
interrupted. -/
theorem inStep_of_operation {V : α → β → Prop} {left : Action α} {right : Action β}
    (operation : Comparison.Operation (fun _ => True) left) (follows : R.Follows V left right) :
    R.InStep V left right :=
  fun s s' related => (follows s s' related).together fun stopped =>
    absurd stopped (operation.ends s)

/-- Two actions in sequence are in step if each is. The second begins in corresponding states, and
where the first was interrupted there is no second on either side. -/
theorem inStep_bind {V : α → β → Prop} {W : γ → δ → Prop} {first : Action α} {first' : Action β}
    {next : α → Action γ} {next' : β → Action δ} (firsts : R.InStep V first first')
    (nexts : ∀ value value', V value value' → R.InStep W (next value) (next' value')) :
    R.InStep W (first >>= next) (first' >>= next') := by
  intro s s' related
  have ends := firsts s s' related
  show R.Together W (Action.bind first next s) (Action.bind first' next' s')
  unfold Action.bind
  generalize first s = ended, first' s' = ended' at ends ⊢
  cases ends with
  | done same later => exact nexts _ _ same _ _ later
  | failed same later => exact .failed same later
  | interrupted => exact .interrupted

/-- Actions are compared by whether they are in step. -/
def stepwise (R : Correspondence) : Comparison :=
  { R.comparison with actions := R.InStep }

/-- Actions that are in step may be put together. -/
theorem stepwise_composes {σ σ' : Settings} (respected : R.Respected σ σ') :
    R.stepwise.Composes where
  passesSame := trivial
  passesValues := trivial
  passesObjects := trivial
  passesScopes := trivial
  passesRoutines := trivial
  pure := fun same _ _ related => .done same related
  fail := fun fault _ _ related => .failed (respected.fault fault) related
  bind := fun _ => inStep_bind

/-- So being in step is a congruence wherever the operations on the state respect the
correspondence. Each of them is in step because it follows and is never interrupted. -/
theorem stepwise_congruence {σ σ' : Settings} (respected : R.Respected σ σ') :
    R.stepwise.Congruence σ σ' := by
  have follows := congruence respected
  have readSlot {i j : ObjectId} (name : String) (same : R.objects i j) :
      R.InStep R.Values (Eval.readSlot i name) (Eval.readSlot j name) :=
    inStep_of_operation (.readSlot i name) (follows.readSlot name same)
  exact
    { toComposes := stepwise_composes respected
      sameName := follows.sameName
      sameParams := follows.sameParams
      print := fun text => inStep_of_operation (.print text) (follows.print text)
      makeArray := fun elements =>
        inStep_of_operation (.makeArray elements) (follows.makeArray elements)
      applyElements := fun op operands same =>
        inStep_of_operation (.applyElements _ op operands) (follows.applyElements op operands same)
      freshLocals := follows.freshLocals
      freshObject := follows.freshObject
      bindValue := follows.bindValue
      bindRoutine := follows.bindRoutine
      slots := fun same => inStep_of_operation (.slots _) (follows.slots same)
      makeObject := fun scopes => inStep_of_operation (.makeObject _) (follows.makeObject scopes)
      readSlot := readSlot
      replaceSlot := fun name same evaluated =>
        (stepwise_composes respected).replaceSlot (readSlot name same) evaluated
          fun _ _ values _ _ related => .done rfl (respected.putSlot name same values related)
      findMethod := fun name same =>
        inStep_of_operation (.findMethod _ name) (follows.findMethod name same)
      findFunction := fun name =>
        inStep_of_operation (.findFunction name) (follows.findFunction name)
      readVariable := fun admitted =>
        inStep_of_operation (.readVariable trivial) (follows.readVariable admitted)
      assignValue := fun admitted values =>
        inStep_of_operation (.assignValue trivial _) (follows.assignValue admitted values)
      declare := fun admitted values =>
        inStep_of_operation (.declare trivial _) (follows.declare admitted values)
      bindGlobal := fun admitted =>
        inStep_of_operation (.bindGlobal _) (follows.bindGlobal admitted) }

/-- With the same bound, evaluation of the same code stays in step if calls do. By induction on the
bound, through the parts of the code. -/
theorem inStep_eval {σ σ' : Settings} (respected : R.Respected σ σ')
    (sameRoutines : ∀ {routine routine'}, R.routines routine routine' ↔ routine = routine')
    (entered : ∀ {t t' body body'}, R.scopes t t' → R.InStep R.Values body body' →
      R.InStep R.Values (Eval.enter σ t body) (Eval.enter σ' t' body')) (bound : Nat)
    (code : Code) : R.InStep R.Values (eval σ bound code) (eval σ' bound code) := by
  apply Comparison.actions_eval (stepwise_congruence respected) 0
  case named => exact fun _ => trivial
  case sameRoutines => exact sameRoutines
  case entered => exact entered
  case stopped =>
    intro action interrupts
    rw [interrupts rfl]
    exact fun _ _ _ => .interrupted

end Correspondence

namespace Displacement

variable {d : Displacement} {σ σ' : Settings}

/-- A call is in step if its body is. Both sides have the same limit, so it is refused on both or on
neither. -/
theorem inStep_enter (sameLimit : σ.maxCallDepth = σ'.maxCallDepth) {t t' : Scope}
    (scopes : d.Scopes t t') {body body' : Action Value}
    (bodies : d.correspondence.InStep d.correspondence.Values body body') :
    d.correspondence.InStep d.correspondence.Values (Eval.enter σ t body)
      (Eval.enter σ' t' body') := by
  intro s s' same
  apply (follows_enter sameLimit scopes bodies.follows s s' same).together
  rw [Eval.enter_eq_interrupted_iff, Eval.enter_eq_interrupted_iff, ← sameLimit,
    ← States.depth same]
  rintro ⟨within, stopped⟩
  -- That the bodies follow each other says nothing here, since the left one is interrupted.
  have entered : d.States { s with locals := some t, depth := s.depth + 1 }
      { s' with locals := some t', depth := s.depth + 1 } :=
    { same with locals := .some scopes, depth := rfl }
  have ends := bodies _ _ entered
  rw [stopped] at ends
  refine ⟨within, ?_⟩
  generalize body' _ = ended' at ends ⊢
  cases ends
  rfl

/-- From states that hold the same up to layout, and within the same bound, the same code ends in
the same way, or is interrupted on both sides. -/
theorem inStep_eval (sameLimit : σ.maxCallDepth = σ'.maxCallDepth)
    (sameCapacities : d.exact →
      σ.localCapacity = σ'.localCapacity ∧ σ.objectCapacity = σ'.objectCapacity)
    (aligned : d.Aligned)
    (sameRoutines : ∀ {routine routine'}, d.routines routine routine' ↔ routine = routine')
    (bound : Nat) (code : Code) :
    d.correspondence.InStep d.correspondence.Values (eval σ bound code) (eval σ' bound code) :=
  Correspondence.inStep_eval (respected sameLimit sameCapacities aligned) sameRoutines
    (fun scopes bodies => inStep_enter sameLimit scopes bodies) bound code

end Displacement

end SlotLang
