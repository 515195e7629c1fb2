import SlotLang.Proofs.Machine.Comparison
import SlotLang.Proofs.Machine.Outcome

/-!
# Runs that follow each other

Two runs side by side. A correspondence says how what the one run holds is related to what the other
holds: identities, routines, scopes, faults and states. It is respected when every single operation
on the state keeps it, and from that alone the evaluation of any code keeps it.

The left run may have the smaller bound. When it is interrupted nothing is said of the right one;
otherwise the right one ends in the same way.
-/

namespace SlotLang

/-- How what one run holds is related to what another run holds. A comparison of actions is made
from it, by what they do to related states. -/
structure Correspondence where
  /-- Identities of arrays. -/
  arrays : ArrayId → ArrayId → Prop
  /-- Identities of objects. -/
  objects : ObjectId → ObjectId → Prop
  /-- Routines that are bound to names. -/
  routines : Routine → Routine → Prop
  /-- Scopes, the slots of an object among them. -/
  scopes : Scope → Scope → Prop
  /-- Faults. -/
  faults : Fault → Fault → Prop
  /-- Whole states. -/
  states : State → State → Prop

namespace Correspondence

variable {R : Correspondence} {α β γ δ : Type}

/-! ## Values, answers and outcomes -/

/-- Values that correspond as their identities do. -/
abbrev Values (R : Correspondence) : Value → Value → Prop :=
  Value.Corresponds R.arrays R.objects

/-- Corresponding answers of a look-up. -/
inductive Answers (R : Correspondence) (V : α → β → Prop) :
    Except Fault α → Except Fault β → Prop where
  /-- Values that are related. -/
  | ok {value : α} {value' : β} (same : V value value') : Answers R V (.ok value) (.ok value')
  /-- Faults that are related. -/
  | error {fault fault' : Fault} (same : R.faults fault fault') :
      Answers R V (.error fault) (.error fault')

/-- Corresponding outcomes. An interrupted left run says nothing of the right one, so the right run
may have the larger bound. -/
inductive Outcomes (R : Correspondence) (V : α → β → Prop) : Outcome α → Outcome β → Prop where
  /-- Related values, in related states. -/
  | done {value : α} {value' : β} {s s' : State} (same : V value value')
      (related : R.states s s') : Outcomes R V (.done value s) (.done value' s')
  /-- Related faults, in related states. -/
  | failed {fault fault' : Fault} {s s' : State} (same : R.faults fault fault')
      (related : R.states s s') : Outcomes R V (.failed fault s) (.failed fault' s')
  /-- Nothing is said of the right outcome. -/
  | interrupted (outcome : Outcome β) : Outcomes R V .interrupted outcome

/-- One action follows another: from corresponding states they end in corresponding outcomes, unless
the left one is interrupted. -/
def Follows (R : Correspondence) (V : α → β → Prop) (left : Action α) (right : Action β) : Prop :=
  ∀ s s', R.states s s' → R.Outcomes V (left s) (right s')

/-- A correspondence that every operation on the state keeps, under settings that may differ
between the two sides. -/
structure Respected (R : Correspondence) (σ σ' : Settings) : Prop where
  /-- Related routines have the same name, -/
  sameName : ∀ {routine routine'}, R.routines routine routine' → routine.name = routine'.name
  /-- and the same parameters. -/
  sameParams : ∀ {routine routine'}, R.routines routine routine' →
    routine.params = routine'.params
  /-- Every fault is related to itself. -/
  fault : ∀ fault, R.faults fault fault
  /-- Printing the same text goes together. -/
  print : ∀ text, R.Follows Eq (Eval.print text) (Eval.print text)
  /-- New arrays of the same elements are related. -/
  addArray : ∀ {s s'} (elements : Elements), R.states s s' →
    R.arrays ⟨s.heap.arrays.size⟩ ⟨s'.heap.arrays.size⟩ ∧
      R.states { s with heap := (s.heap.addArray elements).2 }
        { s' with heap := (s'.heap.addArray elements).2 }
  /-- An operator of related arrays goes together. -/
  applyElements : ∀ {i j} (op : ArrayOp) (operands : List Int64), R.arrays i j →
    R.Follows R.Values (Eval.applyElements i op operands) (Eval.applyElements j op operands)
  /-- The empty scopes of calls are related. -/
  freshLocals : R.scopes (Table.empty σ.localCapacity) (Table.empty σ'.localCapacity)
  /-- So are the slots of objects without a parent. -/
  freshObject : R.scopes (Table.empty σ.objectCapacity) (Table.empty σ'.objectCapacity)
  /-- Binding related values keeps scopes related. -/
  bindValue : ∀ {t t' v v'} (name : String), R.scopes t t' → R.Values v v' →
    R.scopes (t.insert name (.var v)) (t'.insert name (.var v'))
  /-- So does binding related routines. -/
  bindRoutine : ∀ {t t' routine routine'} (name : String), R.scopes t t' →
    R.routines routine routine' →
    R.scopes (t.insert name (.routine routine)) (t'.insert name (.routine routine'))
  /-- Related objects have related slots. -/
  slots : ∀ {i j s s'}, R.objects i j → R.states s s' →
    R.scopes (s.heap.slots i) (s'.heap.slots j)
  /-- New objects with related slots are related. -/
  addObject : ∀ {t t' s s'}, R.scopes t t' → R.states s s' →
    R.objects ⟨s.heap.objects.size⟩ ⟨s'.heap.objects.size⟩ ∧
      R.states { s with heap := (s.heap.addObject t).2 }
        { s' with heap := (s'.heap.addObject t').2 }
  /-- Slots of related objects read alike. -/
  readSlot : ∀ {i j s s'} (name : String), R.objects i j → R.states s s' →
    R.Answers R.Values (s.heap.readSlot i name) (s'.heap.readSlot j name)
  /-- Binding a slot of related objects keeps states related. -/
  putSlot : ∀ {i j v v' s s'} (name : String), R.objects i j → R.Values v v' → R.states s s' →
    R.states { s with heap := s.heap.putSlot i name (.var v) }
      { s' with heap := s'.heap.putSlot j name (.var v') }
  /-- Methods of related objects are found alike. -/
  method : ∀ {i j s s'} (name : String), R.objects i j → R.states s s' →
    R.Answers R.routines (s.heap.method i name) (s'.heap.method j name)
  /-- Functions are found alike. -/
  function : ∀ {s s'} (name : String), R.states s s' →
    R.Answers R.routines (s.function name) (s'.function name)
  /-- Variables read alike. -/
  readVariable : ∀ {s s'} (name : String), R.states s s' →
    R.Answers R.Values (s.readVariable name) (s'.readVariable name)
  /-- Assignments are refused on both sides or keep states related. -/
  assign : ∀ {v v' s s'} (name : String), R.Values v v' → R.states s s' →
    R.Answers R.states (s.assign name v) (s'.assign name v')
  /-- Declaring a variable keeps states related. -/
  declare : ∀ {v v' s s'} (name : String), R.Values v v' → R.states s s' →
    R.states (s.declare name v) (s'.declare name v')
  /-- So does declaring a function. -/
  bindGlobal : ∀ {s s' routine routine'} (name : String), R.routines routine routine' →
    R.states s s' →
    R.states (s.bindGlobal name (.routine routine)) (s'.bindGlobal name (.routine routine'))
  /-- Calls of related bodies in related scopes go together. -/
  enter : ∀ {t t' body body'}, R.scopes t t' → R.Follows R.Values body body' →
    R.Follows R.Values (Eval.enter σ t body) (Eval.enter σ' t' body')

/-! ## Putting actions together -/

/-- Yielding related values leaves the states related. -/
theorem follows_pure {V : α → β → Prop} {value : α} {value' : β} (same : V value value') :
    R.Follows V (pure value) (pure value') :=
  fun _ _ related => .done same related

/-- So does failing with related faults. -/
theorem follows_fail {V : α → β → Prop} {fault fault' : Fault} (same : R.faults fault fault') :
    R.Follows V (Action.fail fault : Action α) (Action.fail fault' : Action β) :=
  fun _ _ related => .failed same related

/-- One action after another, where what comes second follows for all corresponding values. If the
first fails on one side, it fails on the other. -/
theorem follows_bind {V : α → β → Prop} {W : γ → δ → Prop} {first : Action α} {first' : Action β}
    {next : α → Action γ} {next' : β → Action δ} (firsts : R.Follows V first first')
    (nexts : ∀ value value', V value value' → R.Follows W (next value) (next' value')) :
    R.Follows W (first >>= next) (first' >>= next') := by
  intro s s' related
  have ends := firsts s s' related
  show R.Outcomes W (Action.bind first next s) (Action.bind first' next' s')
  unfold Action.bind
  generalize first s = ended, first' s' = ended' at ends ⊢
  cases ends with
  | done same later => exact nexts _ _ same _ _ later
  | failed same later => exact .failed same later
  | interrupted outcome => exact .interrupted _

/-- Related answers, found without the state, leave it as it is on both sides. -/
theorem follows_ofExcept {V : α → β → Prop} {answer : Except Fault α} {answer' : Except Fault β}
    (same : R.Answers V answer answer') :
    R.Follows V (Action.ofExcept answer) (Action.ofExcept answer') := by
  cases same with
  | ok same => exact follows_pure same
  | error same => exact follows_fail same

/-- A change of the state on both sides follows if it leaves related states related. -/
theorem follows_change {change change' : State → State}
    (kept : ∀ s s', R.states s s' → R.states (change s) (change' s')) :
    R.Follows Eq (Action.change change) (Action.change change') :=
  fun s s' related => .done rfl (kept s s' related)

/-- A look-up that answers alike on both sides follows itself. -/
theorem follows_lookup {V : α → β → Prop} {find : State → Except Fault α}
    {find' : State → Except Fault β}
    (answers : ∀ {s s'}, R.states s s' → R.Answers V (find s) (find' s')) :
    R.Follows V (fun s => Action.ofExcept (find s) s)
      (fun s => Action.ofExcept (find' s) s) :=
  fun s s' related => follows_ofExcept (answers related) s s' related

/-! ## Calls -/

/-- Corresponding outcomes still correspond once their states are changed alike. Values and faults
are not touched by that. -/
theorem Outcomes.mapState {V : α → β → Prop} {outcome : Outcome α} {outcome' : Outcome β}
    (ends : R.Outcomes V outcome outcome') {f f' : State → State}
    (kept : ∀ {s s'}, R.states s s' → R.states (f s) (f' s')) :
    R.Outcomes V (outcome.mapState f) (outcome'.mapState f') := by
  cases ends with
  | done same later => exact .done same (kept later)
  | failed same later => exact .failed same (kept later)
  | interrupted outcome => exact .interrupted _

/-- A call follows a call under the same limit if body follows body, and if states that correspond
still do when both calls are entered and when both are left. -/
theorem follows_call {σ σ' : Settings} (sameLimit : σ.maxCallDepth = σ'.maxCallDepth)
    {t t' : Scope} {V : Value → Value → Prop} {body body' : Action Value}
    (bodies : R.Follows V body body')
    (refused : ∀ fault, R.faults fault fault)
    (sameDepth : ∀ {s s'}, R.states s s' → s.depth = s'.depth)
    (entered : ∀ {s s'}, R.states s s' →
      R.states { s with locals := some t, depth := s.depth + 1 }
        { s' with locals := some t', depth := s'.depth + 1 })
    (left : ∀ {s s' u u'}, R.states s s' → R.states u u' →
      R.states { u with locals := s.locals, depth := u.depth - 1 }
        { u' with locals := s'.locals, depth := u'.depth - 1 }) :
    R.Follows V (Eval.enter σ t body) (Eval.enter σ' t' body') := by
  intro s s' related
  by_cases within : s.depth < σ.maxCallDepth
  · have within' : s'.depth < σ'.maxCallDepth := sameLimit ▸ sameDepth related ▸ within
    rw [Eval.enter_of_within within, Eval.enter_of_within within']
    exact (bodies _ _ (entered related)).mapState fun later => left related later
  · have deep : σ.maxCallDepth ≤ s.depth := Nat.le_of_not_lt within
    rw [Eval.enter_of_deep deep, Eval.enter_of_deep (sameLimit ▸ sameDepth related ▸ deep),
      sameLimit]
    exact .failed (refused _) related

/-! ## Evaluation -/

/-- Actions are compared by whether the one follows the other. All variables may be named. -/
def comparison (R : Correspondence) : Comparison where
  arrays := R.arrays
  objects := R.objects
  scopes := R.scopes
  names := fun _ => True
  routines := R.routines
  passes := fun _ => True
  actions := R.Follows

/-- Actions that follow each other may be put together, whatever relation their values have. -/
theorem composes {σ σ' : Settings} (respected : R.Respected σ σ') : R.comparison.Composes where
  passesSame := trivial
  passesValues := trivial
  passesObjects := trivial
  passesScopes := trivial
  passesRoutines := trivial
  pure := follows_pure
  fail := fun fault => follows_fail (respected.fault fault)
  bind := fun _ => follows_bind

/-- Where the operations on the state respect the correspondence, following is a congruence. An
action that was interrupted is followed by anything, so nothing is asked of the bounds. -/
theorem congruence {σ σ' : Settings} (respected : R.Respected σ σ') :
    R.comparison.Congruence σ σ' where
  toComposes := composes respected
  sameName := respected.sameName
  sameParams := respected.sameParams
  print := respected.print
  makeArray := by
    intro elements s s' related
    obtain ⟨same, later⟩ := respected.addArray elements related
    exact .done (.array same) later
  applyElements := respected.applyElements
  freshLocals := respected.freshLocals
  freshObject := respected.freshObject
  bindValue := respected.bindValue
  bindRoutine := respected.bindRoutine
  slots := fun same s s' related => .done (respected.slots same related) related
  makeObject := by
    intro t t' scopes s s' related
    obtain ⟨same, later⟩ := respected.addObject scopes related
    exact .done (.object same) later
  readSlot := fun name same => follows_lookup (respected.readSlot name same)
  replaceSlot := by
    intro i j evaluate evaluate' name same evaluated
    apply (composes respected).replaceSlot (follows_lookup (respected.readSlot name same)) evaluated
    intro v v' values
    exact follows_change fun s s' => respected.putSlot name same values
  findMethod := fun name same => follows_lookup (respected.method name same)
  findFunction := fun name => follows_lookup (respected.function name)
  readVariable := fun {name} _ => follows_lookup (respected.readVariable name)
  assignValue := by
    intro name v v' _ values s s' related
    have assigned := respected.assign name values related
    unfold Eval.assignValue
    generalize s.assign name v = answer, s'.assign name v' = answer' at assigned ⊢
    cases assigned with
    | ok later => exact .done .null later
    | error same => exact .failed same related
  declare := fun {name} _ _ _ values => follows_change fun s s' => respected.declare name values
  bindGlobal := by
    intro routine routine' same
    rw [← respected.sameName same]
    exact follows_change fun s s' => respected.bindGlobal routine.name same

/-- Evaluation of the same code keeps every correspondence that single operations keep, if
corresponding routines are the same. -/
theorem follows_eval {σ σ' : Settings} (respected : R.Respected σ σ')
    (sameRoutines : ∀ {routine routine'}, R.routines routine routine' ↔ routine = routine')
    {bound bound' : Nat} (enough : bound ≤ bound') (code : Code) :
    R.Follows R.Values (eval σ bound code) (eval σ' bound' code) := by
  obtain ⟨more, rfl⟩ := Nat.exists_eq_add_of_le enough
  apply Comparison.actions_eval (congruence respected) more
  case named => exact fun _ => trivial
  case sameRoutines => exact sameRoutines
  case entered => exact respected.enter
  case stopped => exact fun _ _ _ _ _ => .interrupted _

end Correspondence

end SlotLang
