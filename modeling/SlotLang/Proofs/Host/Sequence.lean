import SlotLang.Host.Session
import SlotLang.Proofs.Machine.Bound
import SlotLang.Proofs.Machine.CallDepth
import SlotLang.Proofs.Program.RoundTrip

/-!
# A session is one program

A session is fed texts. Those that are no programs are refused and leave no trace. The others are
run one by one, each from the top level over what the last one left, and this is what a sequence of
them does: between two statements at the top level there is no local scope and no active call that
a session could lose.
-/

namespace SlotLang

/-! ## The top level -/

/-- No routine's body is running. -/
structure State.AtTop (s : State) : Prop where
  /-- There is no local scope. -/
  locals : s.locals = none
  /-- No call is open. -/
  depth : s.depth = 0

/-- A fresh state is at the top, with no call under way. -/
theorem State.atTop_initial (σ : Settings) (sink : Sink) : (State.initial σ sink).AtTop :=
  ⟨rfl, rfl⟩

/-- Where there is no local scope, none is left behind. -/
theorem State.Evolves.locals_eq_none {σ : Settings} {s t : State} (evolves : s.Evolves σ t)
    (absent : s.locals = none) : t.locals = none := by
  induction evolves with
  | refl | print | addArray | updateArray | addObject | putSlot | bindGlobal => exact absent
  | trans _ _ first second => exact second (first absent)
  | declare s name value =>
    obtain ⟨scope, present, _⟩ | same := s.declare_cases name value
    · simp [absent] at present
    · rw [same]
      exact absent
  | assign assigned =>
    obtain ⟨scope, present, _⟩ | rfl := State.assign_cases assigned
    · simp [absent] at present
    · exact absent
  | call => exact absent

/-- After any evaluation it is at the top again, since every call has been left, however it
ended. -/
theorem State.AtTop.after {σ : Settings} {s t : State} (top : s.AtTop) (evolves : s.Evolves σ t) :
    t.AtTop :=
  ⟨evolves.locals_eq_none top.locals, evolves.depth_eq.trans top.depth⟩

/-- At the top level, running a program is evaluating it. -/
theorem State.AtTop.runIn_eq {s : State} (top : s.AtTop) (σ : Settings) (bound : Nat)
    (program : Stmt) : runIn σ bound program s = SlotLang.eval σ bound (.stmt program) s := by
  obtain ⟨globals, locals, heap, sink, depth⟩ := s
  obtain ⟨rfl, rfl⟩ := top
  rfl

/-- A sequence goes on where its first statement ends. -/
theorem eval_seq_of_done {σ : Settings} {bound : Nat} {first : Stmt} {value : Value} {s t : State}
    (ended : eval σ bound (.stmt first) s = .done value t) (second : Stmt) :
    eval σ (bound + 1) (.stmt (.seq first second)) s = eval σ bound (.stmt second) t := by
  rw [eval_succ]
  show Action.bind (eval σ bound (.stmt first)) (fun _ => eval σ bound (.stmt second)) s = _
  rw [Action.bind, ended]

/-! ## One input -/

/-- The program that a text is read as. -/
def Stmt.ofText? (input : String) : Option Stmt :=
  (Stmt.decode input).toOption

/-- A text that is read has its program. -/
theorem Stmt.ofText?_of_ok {input : String} {program : Stmt}
    (read : Stmt.decode input = .ok program) : Stmt.ofText? input = some program := by
  rw [Stmt.ofText?, read]
  rfl

/-- A text that is refused has none. -/
theorem Stmt.ofText?_of_error {input : String} {failure : HostError}
    (refused : Stmt.decode input = .error failure) : Stmt.ofText? input = none := by
  rw [Stmt.ofText?, refused]
  rfl

/-- What a text is refused with is a failure to decode it. -/
theorem Stmt.decode_error {input : String} {failure : HostError}
    (refused : Stmt.decode input = .error failure) :
    ∃ message span, failure = .decode message span := by
  unfold Stmt.decode decodeTerm at refused
  cases read : Json.readTerm .stmt Stmt.ofJson? input.toList with
  | ok program =>
    rw [read] at refused
    cases refused
  | error cause =>
    rw [read] at refused
    cases refused
    cases cause with
    | unlocated cause => exact ⟨_, _, rfl⟩
    | located cause left => exact ⟨_, _, rfl⟩

namespace Session

variable {bound : Nat} {session next last : Session} {input : String}

/-- A text that is refused is answered with its failure, and the session stays as it was. -/
theorem eval_refused {failure : HostError} (refused : Stmt.decode input = .error failure)
    (bound : Nat) (session : Session) :
    session.eval bound input = some (.error failure, session) := by
  rw [Session.eval, refused]

/-- What an input can lead to: it is refused, or it is a program that was run. -/
theorem eval_cases {answer : Except HostError Value}
    (answered : session.eval bound input = some (answer, next)) :
    (∃ failure, Stmt.decode input = .error failure ∧ answer = .error failure ∧ next = session) ∨
    ∃ program state, Stmt.decode input = .ok program ∧ next = { session with state } ∧
      ((∃ value, answer = .ok value ∧
        runIn session.settings bound program session.state = .done value state) ∨
      ∃ fault, answer = .error (.runtime fault) ∧
        runIn session.settings bound program session.state = .failed fault state) := by
  unfold Session.eval at answered
  split at answered
  · next failure refused =>
    cases answered
    exact .inl ⟨failure, refused, rfl, rfl⟩
  · next program read =>
    right
    split at answered
    · next ended =>
      cases answered
      exact ⟨program, _, read, rfl, .inl ⟨_, rfl, ended⟩⟩
    · next ended =>
      cases answered
      exact ⟨program, _, read, rfl, .inr ⟨_, rfl, ended⟩⟩
    · cases answered

/-- From the top level, an input does to the state what evaluation can do to it. -/
theorem eval_evolves {answer : Except HostError Value} (top : session.state.AtTop)
    (answered : session.eval bound input = some (answer, next)) :
    next.settings = session.settings ∧ session.state.Evolves session.settings next.state := by
  rcases eval_cases answered with ⟨_, _, _, rfl⟩ | ⟨program, state, _, rfl, ended⟩
  · exact ⟨rfl, .refl _⟩
  · have reached : (SlotLang.eval session.settings bound (.stmt program) session.state).state? =
        some state := by
      rw [← top.runIn_eq]
      rcases ended with ⟨_, _, ended⟩ | ⟨_, _, ended⟩
      · rw [ended]
        rfl
      · rw [ended]
        rfl
    exact ⟨rfl, Evolution.evolving_eval _ _ _ _ _ reached⟩

/-- A statement that yields a value has been read and evaluated. -/
theorem eval_ok {value : Value} (top : session.state.AtTop)
    (answered : session.eval bound input = some (.ok value, next)) :
    ∃ program, Stmt.ofText? input = some program ∧
      SlotLang.eval session.settings bound (.stmt program) session.state =
        .done value next.state := by
  rcases eval_cases answered with
    ⟨_, _, ⟨⟩, _⟩ | ⟨program, state, read, rfl, ⟨_, ⟨⟩, ended⟩ | ⟨_, ⟨⟩, _⟩⟩
  refine ⟨program, Stmt.ofText?_of_ok read, ?_⟩
  rw [← top.runIn_eq, ended]

/-! ## Many inputs -/

/-- An input with the answer to it. -/
structure Exchange where
  /-- The text. -/
  input : String
  /-- The value or the failure. -/
  answer : Except HostError Value

/-- Whether the input is a program. -/
def Exchange.isRead (exchange : Exchange) : Bool :=
  (Stmt.ofText? exchange.input).isSome

/-- Read and run statements one after the other: every input with its answer, and the session after
the last. None if the bound is too small for one of the runs. -/
def evalAll (bound : Nat) : Session → List String → Option (List Exchange × Session)
  | session, [] => some ([], session)
  | session, input :: rest =>
    (session.eval bound input).bind fun (answer, next) =>
      (evalAll bound next rest).map fun (exchanges, last) => (⟨input, answer⟩ :: exchanges, last)

/-- Texts are answered in order: the first in this session, the others in the one that it leaves. -/
theorem evalAll_cons_eq_some {rest : List String} {exchanges : List Exchange} :
    session.evalAll bound (input :: rest) = some (exchanges, last) ↔
      ∃ answer next others, session.eval bound input = some (answer, next) ∧
        next.evalAll bound rest = some (others, last) ∧ ⟨input, answer⟩ :: others = exchanges := by
  simp only [evalAll, Option.bind_eq_some_iff, Option.map_eq_some_iff, Prod.exists,
    Prod.mk.injEq]
  constructor
  · rintro ⟨answer, next, answered, others, _, later, same, rfl⟩
    exact ⟨answer, next, others, answered, later, same⟩
  · rintro ⟨answer, next, others, answered, later, same⟩
    exact ⟨answer, next, answered, others, last, later, same, rfl⟩

/-- From the top level, many inputs do to the state what evaluation can do to it. -/
theorem evalAll_evolves {inputs : List String} {exchanges : List Exchange}
    (top : session.state.AtTop) (answered : session.evalAll bound inputs = some (exchanges, last)) :
    last.settings = session.settings ∧ session.state.Evolves session.settings last.state := by
  induction inputs generalizing session exchanges with
  | nil =>
    cases answered
    exact ⟨rfl, .refl _⟩
  | cons input rest inductionHypothesis =>
    obtain ⟨_, next, others, first, later, _⟩ := evalAll_cons_eq_some.mp answered
    obtain ⟨sameSettings, evolves⟩ := eval_evolves top first
    obtain ⟨sameSettings', evolves'⟩ := inductionHypothesis (top.after evolves) later
    rw [sameSettings] at sameSettings' evolves'
    exact ⟨sameSettings', evolves.trans evolves'⟩

/-- Texts that are no programs may be left out. -/
theorem evalAll_programs (bound : Nat) (session : Session) (inputs : List String) :
    session.evalAll bound (inputs.filter fun input => (Stmt.ofText? input).isSome) =
      (session.evalAll bound inputs).map fun (exchanges, last) =>
        (exchanges.filter Exchange.isRead, last) := by
  induction inputs generalizing session with
  | nil => rfl
  | cons input rest inductionHypothesis =>
    cases decoded : Stmt.decode input with
    | error failure =>
      have refused := Stmt.ofText?_of_error decoded
      rw [List.filter_cons_of_neg (by simp [refused]), evalAll, eval_refused decoded,
        inductionHypothesis]
      simp [Function.comp_def, Exchange.isRead, refused]
    | ok program =>
      have accepted := Stmt.ofText?_of_ok decoded
      rw [List.filter_cons_of_pos (by simp [accepted]), evalAll, evalAll]
      cases session.eval bound input with
      | none => rfl
      | some answered =>
        simp [inductionHypothesis, Function.comp_def, Exchange.isRead, accepted]

/-- Statements that all yield values are run as the sequence of them. The induction is on the
inputs; every one of them but the last is one level of the sequence. -/
theorem evalAll_ok {inputs : List String} {exchanges : List Exchange}
    (top : session.state.AtTop) (answered : session.evalAll bound inputs = some (exchanges, last))
    (succeeded : ∀ exchange ∈ exchanges, ∃ value, exchange.answer = .ok value)
    (nonempty : inputs ≠ []) :
    ∃ value, exchanges.getLast?.map Exchange.answer = some (.ok value) ∧
      ∀ enough, bound + inputs.length ≤ enough →
        SlotLang.eval session.settings enough (.stmt (.ofList (inputs.filterMap Stmt.ofText?)))
          session.state = .done value last.state := by
  induction inputs generalizing session exchanges with
  | nil => contradiction
  | cons input rest inductionHypothesis =>
    obtain ⟨_, next, others, first, later, rfl⟩ := evalAll_cons_eq_some.mp answered
    obtain ⟨⟨value, rfl⟩, othersSucceeded⟩ := List.forall_mem_cons.mp succeeded
    obtain ⟨program, read, ended⟩ := eval_ok top first
    obtain ⟨sameSettings, evolves⟩ := eval_evolves top first
    have nextTop := top.after evolves
    have endsWithin (enough : Nat) (within : bound ≤ enough) :
        SlotLang.eval session.settings enough (.stmt program) session.state =
          .done value next.state := by
      rw [eval_eq_of_le within (by simp [ended]), ended]
    cases rest with
    | nil =>
      cases later
      refine ⟨value, rfl, fun enough within => ?_⟩
      simp only [List.filterMap_cons, read, List.filterMap_nil, Stmt.ofList]
      exact endsWithin enough (Nat.le_of_add_right_le within)
    | cons second rest =>
      obtain ⟨lastValue, lastAnswer, sequence⟩ :=
        inductionHypothesis nextTop later othersSucceeded (by simp)
      -- The rest is not empty, so the list of programs is a sequence and not its only statement.
      obtain ⟨_, _, _, secondAnswered, _, rfl⟩ := evalAll_cons_eq_some.mp later
      obtain ⟨⟨_, rfl⟩, _⟩ := List.forall_mem_cons.mp othersSucceeded
      obtain ⟨secondProgram, secondRead, _⟩ := eval_ok nextTop secondAnswered
      refine ⟨lastValue, by simpa using lastAnswer, fun enough within => ?_⟩
      obtain ⟨below, rfl, withinBelow⟩ :
          ∃ below, enough = below + 1 ∧ bound + (second :: rest).length ≤ below :=
        ⟨enough - 1, by simp at within; omega, by simp at within ⊢; omega⟩
      have sequenceBelow := sequence below withinBelow
      simp only [List.filterMap_cons, read, secondRead, Stmt.ofList] at sequenceBelow ⊢
      rw [eval_seq_of_done (endsWithin below (Nat.le_of_add_right_le withinBelow)), ← sameSettings]
      exact sequenceBelow

/-- A session is one program. A text that is no program is answered with a failure to decode it and
leaves the session as it was, so the other answers do not depend on such texts. If all the other
texts, at least one, yield values, then running the sequence of them in a fresh state ends in the
last of these values and in the state that the session is in. -/
theorem is_one_program (σ : Settings) (sink : Sink) (bound : Nat) (inputs : List String) :
    (∀ (session : Session) (input : String) (failure : HostError),
      Stmt.decode input = .error failure →
        (∃ message span, failure = .decode message span) ∧
        session.eval bound input = some (.error failure, session)) ∧
    (start σ sink).evalAll bound (inputs.filter fun input => (Stmt.ofText? input).isSome) =
      ((start σ sink).evalAll bound inputs).map (fun (exchanges, last) =>
        (exchanges.filter Exchange.isRead, last)) ∧
    ∀ exchanges last, (start σ sink).evalAll bound inputs = some (exchanges, last) →
      inputs.filterMap Stmt.ofText? ≠ [] →
      (∀ exchange ∈ exchanges, exchange.isRead → ∃ value, exchange.answer = .ok value) →
      ∃ value,
        (exchanges.filter Exchange.isRead).getLast?.map Exchange.answer = some (.ok value) ∧
        ∀ enough, bound + inputs.length ≤ enough →
          run σ enough (.ofList (inputs.filterMap Stmt.ofText?)) (State.initial σ sink) =
            .done value last.state := by
  refine ⟨?_, evalAll_programs bound _ inputs, ?_⟩
  · exact fun session input failure refused =>
      ⟨Stmt.decode_error refused, eval_refused refused bound session⟩
  · intro exchanges last answered nonempty succeeded
    have read : (start σ sink).evalAll bound (inputs.filter fun input =>
        (Stmt.ofText? input).isSome) = some (exchanges.filter Exchange.isRead, last) := by
      rw [evalAll_programs, answered]
      rfl
    have samePrograms : (inputs.filter fun input => (Stmt.ofText? input).isSome).filterMap
        Stmt.ofText? = inputs.filterMap Stmt.ofText? := by
      rw [List.filterMap_filter]
      congr 1
      funext input
      cases Stmt.ofText? input <;> rfl
    have readSucceeded : ∀ exchange ∈ exchanges.filter Exchange.isRead,
        ∃ value, exchange.answer = .ok value := fun exchange listed =>
      succeeded exchange (List.mem_filter.mp listed).1 (List.mem_filter.mp listed).2
    have someRead : inputs.filter (fun input => (Stmt.ofText? input).isSome) ≠ [] := by
      intro none
      rw [← samePrograms, none] at nonempty
      exact nonempty rfl
    obtain ⟨value, lastAnswer, sequence⟩ :=
      evalAll_ok (State.atTop_initial σ sink) read readSucceeded someRead
    rw [samePrograms] at sequence
    refine ⟨value, lastAnswer, fun enough within => sequence enough ?_⟩
    have fewer := List.length_filter_le (fun input => (Stmt.ofText? input).isSome) inputs
    omega

/-- A declaration, a text that is no program, and an expression. -/
theorem is_one_program_one_refused :
    let inputs := [(Stmt.var "x" (.int 7)).encode, "?", (Stmt.expr (.ref "x")).encode]
    inputs.filterMap Stmt.ofText? = [.var "x" (.int 7), .expr (.ref "x")] ∧
      ∃ exchanges last,
        (start .default .unlimited).evalAll 9 inputs = some (exchanges, last) ∧
        exchanges.map Exchange.isRead = [true, false, true] ∧
        ∃ value, run .default 12 (.ofList [.var "x" (.int 7), .expr (.ref "x")])
          (State.initial .default .unlimited) = .done value last.state := by
  intro inputs
  have read (program : Stmt) := Stmt.decode_of_spells program.spells_encode
  have programs : inputs.filterMap Stmt.ofText? = [.var "x" (.int 7), .expr (.ref "x")] := by
    have refused : Stmt.ofText? "?" = none := by decide +kernel
    have accepted (program : Stmt) := Stmt.ofText?_of_ok (read program)
    simp [inputs, accepted, refused]
  have found : ((start .default .unlimited).evalAll 9 inputs).map (fun (exchanges, _) =>
      (exchanges.map Exchange.isRead,
        exchanges.all fun exchange => !exchange.isRead || exchange.answer.isOk)) =
      some ([true, false, true], true) := by
    simp only [inputs, evalAll, Session.eval, read]
    decide +kernel
  obtain ⟨⟨exchanges, last⟩, answered, same⟩ := Option.map_eq_some_iff.mp found
  obtain ⟨sameRead, succeeded⟩ := Prod.mk.inj same
  obtain ⟨value, _, sequence⟩ := (is_one_program .default .unlimited 9 inputs).2.2 exchanges last
    answered (by simp [programs]) (by
      intro exchange listed isRead
      have ok := List.all_eq_true.mp succeeded exchange listed
      rw [isRead] at ok
      cases answer : exchange.answer with
      | ok value => exact ⟨value, rfl⟩
      | error failure => simp [answer, Except.isOk, Except.toBool] at ok)
  rw [programs] at sequence
  exact ⟨programs, exchanges, last, answered, sameRead, value, sequence 12 (by decide)⟩

end Session

end SlotLang
