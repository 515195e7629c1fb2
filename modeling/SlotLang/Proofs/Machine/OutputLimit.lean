import SlotLang.Proofs.Machine.DepthLimit

/-!
# A limited sink only cuts a run short

A run whose sink has a limit and the same run without the limit do the same, step by step, until a
text comes that the limited sink refuses. The run with the limit then fails at once, and all that it
had printed are whole texts at the front of what the other one prints. Here the two runs are
compared until then; of what the unlimited run does after that nothing is said but that its output
has outgrown the limit and does not shrink.
-/

namespace SlotLang

/-! ## Sinks with a limit -/

/-- The sink with a limit on the bytes that are written in all. What was written already counts. -/
def Sink.limitTo (sink : Sink) (limit : Nat) : Sink :=
  { sink with room := some (limit - sink.bytes) }

/-- The state with a limit on what its sink takes. -/
def State.limitTo (s : State) (limit : Nat) : State :=
  { s with sink := s.sink.limitTo limit }

/-- The outcome with a limit on what the sink takes. -/
def Outcome.limitTo {α : Type} (limit : Nat) : Outcome α → Outcome α
  | .done value s => .done value (s.limitTo limit)
  | .failed fault s => .failed fault (s.limitTo limit)
  | .interrupted => .interrupted

/-- The outcome, with another sink. All else of its state is as it was. -/
def Outcome.withSink {α : Type} (sink : Sink) : Outcome α → Outcome α
  | .done value s => .done value { s with sink }
  | .failed fault s => .failed fault { s with sink }
  | .interrupted => .interrupted

/-- A limited sink takes a text exactly if all that is written then is within the limit, and refuses
it whole otherwise. -/
theorem Sink.write_limitTo {sink : Sink} (neverFails : sink.NeverFails) {limit : Nat}
    (within : sink.bytes ≤ limit) (text : String) :
    (sink.limitTo limit).write text =
      if sink.bytes + text.utf8ByteSize ≤ limit then (none, (sink.write text).2.limitTo limit)
      else (some (.output "sink full"), sink.limitTo limit) := by
  have passes := (neverFails_iff.mp neverFails).2
  have counted := bytes_push sink text sink.room
  have fits : (sink.limitTo limit).fits text =
      decide (sink.bytes + text.utf8ByteSize ≤ limit) := by
    simp only [Sink.fits, limitTo, Option.all_some, decide_eq_decide]
    omega
  rw [Sink.write, fits, neverFails.write_eq]
  by_cases room : sink.bytes + text.utf8ByteSize ≤ limit
  · simp only [room, decide_true, if_true, limitTo, counted, Option.map_some, Nat.sub_sub]
    simp [passes]
  · simp [room]

namespace OutputLimit

variable {limit : Nat} {α β γ δ : Type}

/-! ## Runs of which one is cut short -/

/-- However the outcome ends, its output continues that of `s` and has outgrown the limit. An
interrupted run leaves no output to be judged. -/
def Overruns (limit : Nat) (s : State) (outcome : Outcome α) : Prop :=
  ∀ t, outcome.state? = some t → s.sink.Grows t.sink ∧ limit < t.sink.bytes

/-- The outcome of a run with a limit and that of the same run without. They are the same but for
the limit, or the limited sink was full and the output of the other run has outgrown the limit. -/
inductive Outcomes (limit : Nat) (V : α → β → Prop) : Outcome α → Outcome β → Prop where
  /-- The same value, and the sink has room. -/
  | done {value : α} {value' : β} {s : State} (same : V value value')
      (neverFails : s.sink.NeverFails) (within : s.sink.bytes ≤ limit) :
      Outcomes limit V (.done value (s.limitTo limit)) (.done value' s)
  /-- The same fault, and the sink has room. -/
  | failed {s : State} (fault : Fault) (neverFails : s.sink.NeverFails)
      (within : s.sink.bytes ≤ limit) :
      Outcomes limit V (.failed fault (s.limitTo limit)) (.failed fault s)
  /-- Both were interrupted. -/
  | interrupted : Outcomes limit V .interrupted .interrupted
  /-- The left sink is full, and the right run prints more than the limit. -/
  | full {s : State} {outcome : Outcome β} (within : s.sink.bytes ≤ limit)
      (more : Overruns limit s outcome) :
      Outcomes limit V (.failed (.output "sink full") s) outcome

/-- The left action, started with a limit, is the right one, started without, unless its sink is
full. -/
structure Truncates (limit : Nat) (V : α → β → Prop) (left : Action α) (right : Action β) :
    Prop where
  /-- Within the limit the outcomes are the same, and else the right one goes on. -/
  outcomes : ∀ s : State, s.sink.NeverFails → s.sink.bytes ≤ limit →
    Outcomes limit V (left (s.limitTo limit)) (right s)
  /-- What the right one prints is only added. -/
  extending : CutShort.Extending right

/-- Output that has outgrown the limit still has after whatever comes next. -/
theorem Overruns.bind {s : State} {first : Outcome α} (more : Overruns limit s first)
    {next : α → Action β} (later : ∀ value, CutShort.Extending (next value)) :
    Overruns limit s (Action.bind (fun _ => first) next s) := by
  intro t reached
  cases first with
  | done value u =>
    obtain ⟨grows, beyond⟩ := more u rfl
    have extended := later value u t reached
    exact ⟨grows.trans extended, Nat.lt_of_lt_of_le beyond extended.bytes_le⟩
  | failed fault u => exact more t reached
  | interrupted => cases reached

/-- Yielding a value prints nothing, so it is the same with a limit and without. -/
theorem truncates_pure {V : α → β → Prop} {value : α} {value' : β} (same : V value value') :
    Truncates limit V (pure value) (pure value') := by
  refine ⟨fun s neverFails within => .done same neverFails within, ?_⟩
  rintro s _ ⟨⟩
  exact .refl _

/-- So is failing with the same fault. -/
theorem truncates_fail {V : α → β → Prop} (fault : Fault) :
    Truncates limit V (Action.fail fault : Action α) (Action.fail fault : Action β) := by
  refine ⟨fun s neverFails within => .failed fault neverFails within, ?_⟩
  rintro s _ ⟨⟩
  exact .refl _

/-- Where the first action was not cut short, the second begins in states that differ in the limit
only. Where it was, nothing comes after it on the side of the limit, and on the other side the
output goes on growing. -/
theorem truncates_bind {V : α → β → Prop} {W : γ → δ → Prop} {first : Action α}
    {first' : Action β} {next : α → Action γ} {next' : β → Action δ}
    (total : Comparison.RightTotal V) (firsts : Truncates limit V first first')
    (nexts : ∀ value value', V value value' → Truncates limit W (next value) (next' value')) :
    Truncates limit W (first >>= next) (first' >>= next') := by
  have extending (value' : β) : CutShort.Extending (next' value') := by
    obtain ⟨value, same⟩ := total value'
    exact (nexts value value' same).extending
  refine ⟨fun s neverFails within => ?_, CutShort.extending_bind firsts.extending extending⟩
  have ends := firsts.outcomes s neverFails within
  show Outcomes limit W (Action.bind first next _) (Action.bind first' next' s)
  unfold Action.bind
  generalize first (s.limitTo limit) = ended, first' s = ended' at ends ⊢
  cases ends with
  | done same neverFails within => exact (nexts _ _ same).outcomes _ neverFails within
  | failed fault neverFails within => exact .failed fault neverFails within
  | interrupted => exact .interrupted
  | full within more => exact .full within (more.bind extending)

/-! ### Actions that do not print -/

/-- The sink makes no difference to the action and is not changed by it. All operations but printing
are of this kind. -/
def Silent (action : Action α) : Prop :=
  ∀ s sink, action { s with sink } = (action s).withSink sink

/-- An action that neither reads nor writes the sink does the same with a limit and without, and
uses up none of the limit. -/
theorem truncates_of_silent {V : α → α → Prop} (refl : ∀ value, V value value)
    {action : Action α} (silent : Silent action) (extending : CutShort.Extending action) :
    Truncates limit V action action := by
  refine ⟨fun s neverFails within => ?_, extending⟩
  have unlimited : action s = (action s).withSink s.sink := silent s s.sink
  have limited : action (s.limitTo limit) = (action s).withSink (s.sink.limitTo limit) :=
    silent s (s.sink.limitTo limit)
  rw [limited, unlimited]
  cases action s with
  | done value t => exact .done (s := { t with sink := s.sink }) (refl value) neverFails within
  | failed fault t => exact .failed (s := { t with sink := s.sink }) fault neverFails within
  | interrupted => exact .interrupted

/-- A look-up does not print. -/
theorem silent_lookup {find : State → Except Fault α}
    (elsewhere : ∀ (s : State) sink, find { s with sink } = find s) :
    Silent fun s => Action.ofExcept (find s) s := by
  intro s sink
  dsimp only
  rw [elsewhere]
  cases find s <;> rfl

/-- A change elsewhere than in the sink. -/
theorem silent_change {change : State → State}
    (elsewhere : ∀ (s : State) sink, change { s with sink } = { change s with sink }) :
    Silent (Action.change change) := by
  intro s sink
  show Outcome.done () (change { s with sink }) = _
  rw [elsewhere]
  rfl

/-- An operator of an array leaves the sink alone. -/
theorem silent_applyElements (id : ArrayId) (op : ArrayOp) (operands : List Int64) :
    Silent (Eval.applyElements id op operands) := by
  intro s sink
  unfold Eval.applyElements
  dsimp only
  cases op.value (s.heap.elements id) operands <;> rfl

/-- So does an assignment, in whichever scope it binds. -/
theorem silent_assignValue (name : String) (value : Value) :
    Silent (Eval.assignValue name value) := by
  intro s sink
  unfold Eval.assignValue State.assign
  dsimp only
  cases s.locals.filter (·.contains name) with
  | some scope => rfl
  | none =>
    by_cases bound : s.globals.contains name
    · simp only [bound, if_true]
      rfl
    · simp only [bound]
      rfl

/-- So does a declaration. -/
theorem silent_declare (name : String) (value : Value) :
    Silent (Action.change (·.declare name value)) := by
  apply silent_change
  rintro ⟨globals, locals, heap, _, depth⟩ sink
  cases locals <;> rfl

/-! ### Printing and calling -/

/-- A text that is within the limit is printed on both sides. With the first that is not, the one
run ends and the output of the other has outgrown the limit. -/
theorem truncates_print (text : String) :
    Truncates limit Eq (Eval.print text) (Eval.print text) := by
  refine ⟨fun s neverFails within => ?_, ?_⟩
  · have after := neverFails.after_write text
    have grows := s.sink.grows_write text
    have counted : (s.sink.write text).2.bytes = s.sink.bytes + text.utf8ByteSize := by
      rw [neverFails.write_eq]
      exact Sink.bytes_push _ _ _
    have right : Eval.print text s = .done () { s with sink := (s.sink.write text).2 } := by
      rw [Eval.print, neverFails.write_eq]
    rw [right, Eval.print, State.limitTo]
    dsimp only
    rw [Sink.write_limitTo neverFails within]
    by_cases room : s.sink.bytes + text.utf8ByteSize ≤ limit
    · rw [if_pos room]
      exact .done (s := { s with sink := (s.sink.write text).2 }) rfl after (counted ▸ room)
    · rw [if_neg room]
      apply Outcomes.full (s := { s with sink := s.sink.limitTo limit }) within
      rintro _ ⟨⟩
      exact ⟨grows, counted ▸ Nat.lt_of_not_le room⟩
  · exact CutShort.extending_of_evolving (σ := .default) (Evolution.evolving_print text)

/-- Only the sinks count: outcomes stay as they are to each other when the rest of their states is
changed, in the same way with the limit as without. -/
theorem Outcomes.mapState {V : α → β → Prop} {outcome : Outcome α} {outcome' : Outcome β}
    (ends : Outcomes limit V outcome outcome') {f : State → State}
    (sameSink : ∀ t, (f t).sink = t.sink)
    (limited : ∀ t : State, f (t.limitTo limit) = (f t).limitTo limit) :
    Outcomes limit V (outcome.mapState f) (outcome'.mapState f) := by
  cases ends with
  | @done value value' t same neverFails within =>
    rw [Outcome.mapState, limited]
    exact .done same (sameSink t ▸ neverFails) (sameSink t ▸ within)
  | @failed t fault neverFails within =>
    rw [Outcome.mapState, limited]
    exact .failed fault (sameSink t ▸ neverFails) (sameSink t ▸ within)
  | interrupted => exact .interrupted
  | @full t _ within more =>
    refine .full (sameSink t ▸ within) (Outcome.forall_state?_mapState fun u ended => ?_)
    rw [sameSink t, sameSink u]
    exact more u ended

/-- A call is cut short where its body is. The scope and the depth of the caller are put back in
either case. -/
theorem truncates_enter (σ : Settings) (scope : Scope) {V : Value → Value → Prop}
    {body body' : Action Value} (bodies : Truncates limit V body body') :
    Truncates limit V (Eval.enter σ scope body) (Eval.enter σ scope body') := by
  refine ⟨fun s neverFails within => ?_, CutShort.extending_enter σ scope bodies.extending⟩
  by_cases shallow : s.depth < σ.maxCallDepth
  · have ends := bodies.outcomes { s with locals := some scope, depth := s.depth + 1 } neverFails
      within
    rw [Eval.enter_of_within (s := s.limitTo limit) shallow, Eval.enter_of_within shallow]
    exact ends.mapState (fun _ => rfl) fun _ => rfl
  · have deep : σ.maxCallDepth ≤ s.depth := Nat.le_of_not_lt shallow
    rw [Eval.enter_of_deep (s := s.limitTo limit) deep, Eval.enter_of_deep deep]
    exact .failed _ neverFails within

/-! ### Evaluation -/

/-- Of the operations on the state, printing is the only one that the limit can refuse; all others
are silent. -/
theorem truncates_operation {names : String → Prop} {V : α → α → Prop} {action : Action α}
    (operation : Comparison.Operation names action) (refl : ∀ value, V value value) :
    Truncates limit V action action := by
  have extending : CutShort.Extending action :=
    CutShort.extending_of_evolving (σ := .default) (Evolution.evolving_operation operation)
  cases operation with
  | print text =>
    have printed : Truncates limit Eq (Eval.print text) (Eval.print text) := truncates_print text
    refine ⟨fun s neverFails within => ?_, extending⟩
    have ends := printed.outcomes s neverFails within
    generalize Eval.print text _ = ended, Eval.print text s = ended' at ends ⊢
    cases ends with
    | done _ neverFails within => exact .done (refl ()) neverFails within
    | failed fault neverFails within => exact .failed fault neverFails within
    | interrupted => exact .interrupted
    | full within more => exact .full within more
  | applyElements id op operands =>
    exact truncates_of_silent refl (silent_applyElements id op operands) extending
  | assignValue _ value => exact truncates_of_silent refl (silent_assignValue _ value) extending
  | declare _ value => exact truncates_of_silent refl (silent_declare _ value) extending
  | makeArray | makeObject | slots => exact truncates_of_silent refl (fun _ _ => rfl) extending
  | readSlot | findMethod | findFunction | readVariable =>
    exact truncates_of_silent refl (silent_lookup fun _ _ => rfl) extending
  | bindGlobal routine =>
    exact truncates_of_silent refl (silent_change fun _ _ => rfl) extending

/-- Runs of which the left one has a limit on its output. All code is admitted. -/
def comparison (limit : Nat) : Comparison :=
  .plain (fun _ => True) (Truncates limit)

/-- Actions of the comparison may be put together. -/
theorem composes (limit : Nat) : (comparison limit).Composes :=
  Comparison.plain_composes truncates_pure truncates_fail truncates_bind

/-- So the comparison is a congruence, and what holds of the operations holds of whole runs. -/
theorem congruence (limit : Nat) (σ : Settings) : (comparison limit).Congruence σ σ := by
  apply Comparison.plain_congruence rfl rfl (composes limit) truncates_operation
  intro id name evaluate evaluate' evaluated
  have read : Comparison.Operation (fun _ => True) (Eval.readSlot id name) := .readSlot id name
  apply (composes limit).replaceSlot (truncates_operation read Comparison.plain_values) evaluated
  intro v v' same
  cases Value.Corresponds.iff_eq.mp same
  apply truncates_of_silent (fun _ => rfl) (silent_change fun _ _ => rfl)
  rintro s _ ⟨⟩
  exact .refl _

/-- Code under a limit does what it does without one, unless the sink is full. It holds for every
bound on the evaluation, with the same bound on both sides. -/
theorem truncates_eval (limit : Nat) (σ : Settings) (bound : Nat) (code : Code) :
    Truncates limit (comparison limit).Values (eval σ bound code) (eval σ bound code) := by
  apply Comparison.actions_eval (congruence limit σ) 0
  case named => exact fun _ => trivial
  case sameRoutines => exact .rfl
  case entered =>
    rintro scope _ body body' rfl bodies
    exact truncates_enter σ scope bodies
  case stopped =>
    intro action interrupt
    rw [interrupt rfl]
    exact ⟨fun _ _ _ => .interrupted, fun _ _ reached => by cases reached⟩

end OutputLimit

/-- A sink that refuses what goes beyond a limit only cuts a run short. Take a run that ends with a
sink that never fails, and the same run with a limit of at least what was written before. The first
only adds to the output. If its output is within the limit, the second ends in the same outcome.
Otherwise the second ends in a fault of the sink; its output is within the limit, begins with what
was written before, and is the first of the whole texts that the unlimited run writes, with some
text of it missing. -/
theorem limited_sink_truncates {σ : Settings} {code : Code} {s t : State} {limit : Nat}
    (neverFails : s.sink.NeverFails) (within : s.sink.bytes ≤ limit) {outcome : Outcome Value}
    (ends : Ends σ code s outcome) (reached : outcome.state? = some t) :
    s.sink.Grows t.sink ∧
    (t.sink.bytes ≤ limit → Ends σ code (s.limitTo limit) (outcome.limitTo limit)) ∧
    (limit < t.sink.bytes → ∃ (fault : Fault) (u : State),
      Ends σ code (s.limitTo limit) (.failed fault u) ∧ fault.kind = .output ∧
      u.sink.bytes ≤ limit ∧ s.sink.Grows u.sink ∧ u.sink.Grows t.sink ∧
      ∃ more, more ≠ "" ∧ t.sink.text = u.sink.text ++ more) := by
  obtain ⟨uninterrupted, bound, rfl⟩ := ends
  have grows : s.sink.Grows t.sink :=
    (Evolution.evolving_eval σ bound code s t reached).sink_grows
  have growsLimited (u : State) (left : (eval σ bound code (s.limitTo limit)).state? = some u) :
      s.sink.Grows u.sink :=
    (Evolution.evolving_eval σ bound code (s.limitTo limit) u left).sink_grows
  have matched := (OutputLimit.truncates_eval limit σ bound code).outcomes s neverFails within
  generalize evaluated : eval σ bound code (s.limitTo limit) = limited at matched growsLimited
  generalize eval σ bound code s = outcome at *
  refine ⟨grows, ?_⟩
  cases matched with
  | done same _ fits =>
    cases reached
    cases Value.Corresponds.iff_eq.mp same
    exact ⟨fun _ => ⟨by simp [Outcome.limitTo], bound, evaluated⟩, fun beyond => by omega⟩
  | failed fault _ fits =>
    cases reached
    exact ⟨fun _ => ⟨by simp [Outcome.limitTo], bound, evaluated⟩, fun beyond => by omega⟩
  | interrupted => exact absurd rfl uninterrupted
  | @full u _ fits more =>
    obtain ⟨continued, beyond⟩ := more t reached
    refine ⟨fun inside => by omega, fun _ => ?_⟩
    obtain ⟨rest, appended⟩ := continued.text
    refine ⟨_, u, ⟨by simp, bound, evaluated⟩, rfl, fits, growsLimited u rfl, continued, rest, ?_,
      appended⟩
    rintro rfl
    rw [String.append_empty] at appended
    rw [Sink.bytes, appended] at beyond
    exact absurd fits (Nat.not_le.mpr beyond)

/-- An argument prints before the text that it is an argument of. A limit of four bytes has room for
what was written before and for what the argument prints, and a limit of seven for everything. -/
theorem limited_sink_truncates_nested :
    let printer : Routine := ⟨"f", [], .seq (.expr (.printf "ab" [])) (.expr (.int 7))⟩
    let s : State := { State.initial .default .unlimited with
      globals := (Table.empty 1).insert "f" (.routine printer)
      sink := { Sink.unlimited with written := #["x"] } }
    let code : Code := .expr (.printf "c~d" [.call "f" []])
    ∃ t : State, Ends .default code s (.done .null t) ∧ t.sink.text = "xabc7d" ∧
      Ends .default code (s.limitTo 7) (.done .null (t.limitTo 7)) ∧
      ∃ (fault : Fault) (u : State), Ends .default code (s.limitTo 4) (.failed fault u) ∧
        fault.kind = .output ∧ u.sink.bytes ≤ 4 ∧ s.sink.Grows u.sink ∧ u.sink.Grows t.sink ∧
        ∃ more, more ≠ "" ∧ t.sink.text = u.sink.text ++ more := by
  intro printer s code
  have neverFails : s.sink.NeverFails := Sink.neverFails_iff.mpr ⟨rfl, rfl⟩
  have small : s.sink.bytes = 1 := by decide +kernel
  have checked : (eval .default 9 code s).value? = some .null ∧
      (eval .default 9 code s).state?.map (·.sink.text) = some "xabc7d" := by decide +kernel
  obtain ⟨t, evaluated⟩ := Outcome.eq_done checked.1
  have ends : Ends .default code s (.done .null t) := ⟨by simp, 9, evaluated⟩
  have printed : t.sink.text = "xabc7d" := by
    rw [evaluated] at checked
    exact Option.some.inj checked.2
  have counted : t.sink.bytes = 6 := by rw [Sink.bytes, printed]; decide
  refine ⟨t, ends, printed, ?_, ?_⟩
  · exact (limited_sink_truncates neverFails (by omega) ends rfl).2.1 (by omega)
  · exact (limited_sink_truncates neverFails (by omega) ends rfl).2.2 (by omega)

end SlotLang
