import SlotLang.Proofs.Host.Sequence
import SlotLang.Proofs.Machine.Appearance
import SlotLang.Proofs.Machine.Lockstep
import SlotLang.Proofs.Machine.Output

/-!
# A session that is reset is as good as a fresh one

A reset forgets the global names and nothing else. The table that held them keeps its buckets, the
heap keeps its cells, and the output keeps its texts. All of this is left behind: nothing leads to
the cells any more, the buckets do not show, and what is printed from then on is what a fresh
session prints. The two sessions therefore answer alike, however many inputs are still to come.
-/

namespace SlotLang

/-! ## Sinks to which the same is written -/

namespace Sink

/-- Two sinks that never fail and to which the same was written since they held what is `older`.
What was written before may differ. -/
structure SameSince (older older' : List String) (sink sink' : Sink) : Prop where
  /-- The left sink takes every text. -/
  left : sink.NeverFails
  /-- So does the right one. -/
  right : sink'.NeverFails
  /-- What came after `older` on the left came after it on the right. -/
  since : ∃ new, sink.written.toList = older ++ new ∧ sink'.written.toList = older' ++ new

namespace SameSince

variable {older older' : List String} {sink sink' later later' : Sink}

/-- Writing the same to both keeps what has come since the same. -/
theorem write (same : SameSince older older' sink sink') (text : String) :
    SameSince older older' (sink.write text).2 (sink'.write text).2 := by
  refine ⟨same.left.after_write text, same.right.after_write text, ?_⟩
  obtain ⟨new, left, right⟩ := same.since
  refine ⟨new ++ [text], ?_, ?_⟩
  · rw [same.left.write_eq]
    simp [left]
  · rw [same.right.write_eq]
    simp [right]

/-- What has come since is the same. -/
theorem textSince_eq (before : SameSince older older' sink sink')
    (after : SameSince older older' later later') :
    later.textSince sink.written.size = later'.textSince sink'.written.size := by
  obtain ⟨new, left, right⟩ := before.since
  obtain ⟨newer, leftAfter, rightAfter⟩ := after.since
  have size : sink.written.size = older.length + new.length := by
    rw [← Array.length_toList, left, List.length_append]
  have size' : sink'.written.size = older'.length + new.length := by
    rw [← Array.length_toList, right, List.length_append]
  rw [textSince, textSince, leftAfter, rightAfter, size, size',
    List.drop_length_add_append, List.drop_length_add_append]

end SameSince

end Sink

/-! ## What shows of a session -/

namespace Session

/-- What shows of an input: the type and the text of its value, or its failure, then what it printed
and the lines about the global names after it. -/
structure Observation where
  /-- The type and the text of the value, or the failure. -/
  result : Except HostError (String × String)
  /-- What was printed. -/
  printed : String
  /-- The lines that describe the globals. -/
  globals : List String

/-- Read and run one statement, and look at what shows of it: the answer, what was printed, and the
globals. Identities do not show. -/
def observe (bound : Nat) (session : Session) (input : String) : Option (Observation × Session) :=
  (session.eval bound input).map fun (answer, next) =>
    (⟨answer.map fun value => (value.typeName, next.state.heap.render value),
      next.state.sink.textSince session.state.sink.written.size, next.describeGlobals⟩, next)

/-- Read and run statements one after the other, and look at what shows of each. -/
def observeAll (bound : Nat) : Session → List String → Option (List Observation)
  | _, [] => some []
  | session, input :: rest =>
    (session.observe bound input).bind fun (observation, next) =>
      (observeAll bound next rest).map (observation :: ·)

/-- Failures that say the same, but for which of several equally near names is offered. Only
failures of a run offer any. -/
inductive SameFailure : HostError → HostError → Prop where
  /-- Any failure, if it is the same. -/
  | same (failure : HostError) : SameFailure failure failure
  /-- Faults of runs that say the same. -/
  | runtime {fault fault' : Fault} (same : fault.SaysTheSame fault') :
      SameFailure (.runtime fault) (.runtime fault')

/-- Values of the same type and text, or failures that say the same. A value on one side is never
beside a failure on the other. -/
inductive SameResult :
    Except HostError (String × String) → Except HostError (String × String) → Prop where
  /-- The same type and text. -/
  | ok (shown : String × String) : SameResult (.ok shown) (.ok shown)
  /-- Failures that say the same. -/
  | error {failure failure' : HostError} (same : SameFailure failure failure') :
      SameResult (.error failure) (.error failure')

/-- Observations that are the same, but for which of several equally near names a failure offers. -/
structure Observation.Matches (observation observation' : Observation) : Prop where
  /-- The results say the same. -/
  result : SameResult observation.result observation'.result
  /-- The same was printed. -/
  printed : observation.printed = observation'.printed
  /-- The globals are described in the same lines. -/
  globals : observation.globals = observation'.globals

/-! ## Sessions that show the same -/

/-- The displacement of sessions that were reset, by which arrays and objects they have in common
since then and by what was written before. -/
def leftBehind (arrays objects : Matching) (older older' : List String) : Displacement :=
  { Displacement.none with
    arrays
    objects
    sinks := Sink.SameSince older older' }

variable {arrays objects : Matching} {older older' : List String} {session session' : Session}

/-- Two sinks that never fail take the same texts, namely all. What they hold already makes no
difference to that. -/
theorem leftBehind_aligned : (leftBehind arrays objects older older').Aligned := by
  intro sink sink' text same
  exact ⟨(same.left text).trans (same.right text).symm, same.write text⟩

/-- Sessions with the same settings that hold the same, but for what they left behind: cells that
are no longer reached and what was printed. -/
structure Alike (d : Displacement) (session session' : Session) : Prop where
  /-- The settings are the same. -/
  settings : session.settings = session'.settings
  /-- The states hold the same. -/
  states : d.States session.state session'.state

/-- Answers to one input in two sessions, and what becomes of the sessions: the same value, or
failures that say the same, and sessions that hold the same. -/
inductive Answered (d : Displacement) :
    Except HostError Value × Session → Except HostError Value × Session → Prop where
  | ok {value value' : Value} {next next' : Session} (values : d.correspondence.Values value value')
      (alike : Alike d next next') : Answered d (.ok value, next) (.ok value', next')
  | error {failure failure' : HostError} {next next' : Session}
      (same : SameFailure failure failure') (alike : Alike d next next') :
      Answered d (.error failure, next) (.error failure', next')

/-- Sessions that hold the same answer an input alike, or both need a larger bound. A text that is
refused is refused on both sides in the same words. -/
theorem Alike.eval (alike : Alike (leftBehind arrays objects older older') session session')
    (bound : Nat) (input : String) :
    Option.Rel (Answered (leftBehind arrays objects older older')) (session.eval bound input)
      (session'.eval bound input) := by
  unfold Session.eval
  cases Stmt.decode input with
  | error failure => exact .some (.error (.same failure) alike)
  | ok program =>
    have ends : (leftBehind arrays objects older older').correspondence.Together
        (leftBehind arrays objects older older').correspondence.Values
        (runIn session.settings bound program session.state)
        (runIn session'.settings bound program session'.state) :=
      Displacement.inStep_eval (congrArg Settings.maxCallDepth alike.settings) False.elim
        leftBehind_aligned .rfl bound (.stmt program) _ _
        { alike.states with locals := .none, depth := rfl }
    dsimp only
    generalize runIn _ _ _ session.state = ended, runIn _ _ _ session'.state = ended' at ends ⊢
    cases ends with
    | done values states => exact .some (.ok values ⟨alike.settings, states⟩)
    | failed faults states =>
      exact .some (.error (.runtime faults.sameButHint.saysTheSame) ⟨alike.settings, states⟩)
    | interrupted => exact .none

/-- What is printed from then on is the same. -/
theorem Alike.printed {next next' : Session}
    (alike : Alike (leftBehind arrays objects older older') session session')
    (later : Alike (leftBehind arrays objects older older') next next') :
    next.state.sink.textSince session.state.sink.written.size =
      next'.state.sink.textSince session'.state.sink.written.size :=
  Sink.SameSince.textSince_eq alike.states.sink later.states.sink

/-- An input to sessions that hold the same shows the same and leaves them so. This is the step for
a whole series of inputs. -/
theorem Alike.observe (alike : Alike (leftBehind arrays objects older older') session session')
    (bound : Nat) (input : String) :
    Option.Rel (fun (seen : Observation × Session) (seen' : Observation × Session) =>
        seen.1.Matches seen'.1 ∧ Alike (leftBehind arrays objects older older') seen.2 seen'.2)
      (session.observe bound input) (session'.observe bound input) := by
  have answers := alike.eval bound input
  unfold Session.observe
  generalize session.eval bound input = found, session'.eval bound input = found' at answers ⊢
  cases answers with
  | none => exact .none
  | some answered =>
    cases answered with
    | @ok value value' next next' values later =>
      have shown : (value.typeName, next.state.heap.render value) =
          (value'.typeName, next'.state.heap.render value') := by
        rw [Value.Corresponds.typeName values, later.states.render_eq values]
      refine .some ⟨⟨?_, alike.printed later, later.states.describe_eq later.states.globals⟩, later⟩
      show SameResult (.ok (value.typeName, next.state.heap.render value))
        (.ok (value'.typeName, next'.state.heap.render value'))
      rw [shown]
      exact .ok _
    | error same later =>
      exact .some ⟨⟨.error same, alike.printed later,
        later.states.describe_eq later.states.globals⟩, later⟩

/-- And so do many inputs, by induction on them. -/
theorem Alike.observeAll (alike : Alike (leftBehind arrays objects older older') session session')
    (bound : Nat) (inputs : List String) :
    Option.Rel (List.Forall₂ Observation.Matches) (session.observeAll bound inputs)
      (session'.observeAll bound inputs) := by
  induction inputs generalizing session session' with
  | nil => exact .some .nil
  | cons input rest inductionHypothesis =>
    have first := alike.observe bound input
    unfold Session.observeAll
    generalize session.observe bound input = seen, session'.observe bound input = seen' at first ⊢
    cases first with
    | none => exact .none
    | @some seen seen' first =>
      obtain ⟨matched, next⟩ := first
      have others := inductionHypothesis next
      dsimp only [Option.bind_some]
      generalize seen.2.observeAll bound rest = later, seen'.2.observeAll bound rest = later'
        at others ⊢
      cases others with
      | none => exact .none
      | some others => exact .some (.cons matched others)

/-! ## Sessions without global names -/

/-- A session at the top level that binds no global name, with an output that never fails. What its
heap and its output hold is left behind. -/
structure Bare (session : Session) : Prop where
  /-- No call is open. -/
  top : session.state.AtTop
  /-- No global name is bound. -/
  unbound : ∀ name, session.state.globals.get? name = none
  /-- Every text can be printed. -/
  neverFails : session.state.sink.NeverFails

/-- A fresh session has no global names and is at the top. -/
theorem bare_start {σ : Settings} {sink : Sink} (neverFails : sink.NeverFails) :
    (start σ sink).Bare :=
  ⟨State.atTop_initial σ sink, fun _ => Table.get?_empty .., neverFails⟩

/-- After a reset a session has none either, and if it was at the top it is there still. Its heap
keeps the cells that were made before. -/
theorem bare_reset (top : session.state.AtTop) (neverFails : session.state.sink.NeverFails) :
    session.reset.Bare :=
  ⟨⟨top.locals, top.depth⟩, fun _ => Table.get?_clear .., neverFails⟩

/-- Whatever an input does to a session, its output still never fails. -/
theorem Bare.after (bare : session.Bare) {σ : Settings} {next : Session}
    (evolves : session.state.Evolves σ next.state) :
    next.state.AtTop ∧ next.state.sink.NeverFails :=
  ⟨bare.top.after evolves,
    evolves.sink_keeps (fun _ text neverFails => neverFails.after_write text) bare.neverFails⟩

/-- None of the cells that two heaps have at first are the same, and both heaps may have some. This
is so for two sessions in which nothing refers to any of them. -/
def unrelated (left right : Nat) : Matching :=
  { Matching.inOrder left with right := right, inside := False.elim }

/-- Where no cells are matched at first, any two that are the same were made since, behind all that
the heaps had. -/
theorem outside_of_unrelated {left right i j : Nat} (same : (unrelated left right).Cells i j) :
    left ≤ i ∧ right ≤ j := by
  cases same with
  | old matched => exact matched.elim
  | new made => exact ⟨Nat.le_add_right _ _, Nat.le_add_right _ _⟩

/-- Sessions without global names hold the same, but for what they left behind. Their heaps may have
different cells, since nothing refers to these. -/
theorem Bare.alike (bare : session.Bare) (bare' : session'.Bare)
    (settings : session.settings = session'.settings) :
    Alike (leftBehind
        (unrelated session.state.heap.arrays.size session'.state.heap.arrays.size)
        (unrelated session.state.heap.objects.size session'.state.heap.objects.size)
        session.state.sink.written.toList session'.state.sink.written.toList)
      session session' := by
  refine ⟨settings, ?_, ?_, ⟨0, rfl, rfl⟩, ?_, ⟨0, rfl, rfl⟩, ?_, ?_, ?_⟩
  · refine ⟨fun name => ?_, False.elim⟩
    rw [bare.unbound, bare'.unbound]
    exact .none
  · rw [bare.top.locals, bare'.top.locals]
    exact .none
  · intro i j same
    obtain ⟨outside, outside'⟩ := outside_of_unrelated same
    rw [Array.getElem?_eq_none outside, Array.getElem?_eq_none outside']
  · intro i j same
    obtain ⟨outside, outside'⟩ := outside_of_unrelated same
    rw [Array.getElem?_eq_none outside, Array.getElem?_eq_none outside']
    exact .none
  · exact ⟨bare.neverFails, bare'.neverFails, [], (List.append_nil _).symm,
      (List.append_nil _).symm⟩
  · rw [bare.top.depth, bare'.top.depth]

/-- A session at the top level that is reset holds what a fresh one holds, but for what it left
behind. -/
theorem alike_reset {fresh : Sink} (top : session.state.AtTop)
    (neverFails : session.state.sink.NeverFails) (freshNeverFails : fresh.NeverFails) :
    Alike (leftBehind (unrelated session.state.heap.arrays.size 0)
        (unrelated session.state.heap.objects.size 0)
        session.state.sink.written.toList fresh.written.toList)
      session.reset (start session.settings fresh) :=
  (bare_reset top neverFails).alike (bare_start freshNeverFails) rfl

/-- A reset is as good as a fresh session. Whatever inputs a session has had, successes and failures
in any order, after a reset it shows what a fresh session with the same settings shows: no global
names and, for every further list of inputs, the same values and failures, the same printed texts
and the same lines about the global names. A failure may offer another name that is equally near.
Both outputs are taken never to fail. -/
theorem reset_as_good_as_fresh {σ : Settings} {sink fresh : Sink} (neverFails : sink.NeverFails)
    (freshNeverFails : fresh.NeverFails) {bound : Nat} {history : List String}
    {exchanges : List Exchange} {session : Session}
    (answered : (start σ sink).evalAll bound history = some (exchanges, session)) :
    session.reset.describeGlobals = (start σ fresh).describeGlobals ∧
    ∀ bound inputs, Option.Rel (List.Forall₂ Observation.Matches)
      (session.reset.observeAll bound inputs) ((start σ fresh).observeAll bound inputs) := by
  have top := State.atTop_initial σ sink
  obtain ⟨sameSettings, evolves⟩ := evalAll_evolves top answered
  have still : session.state.sink.NeverFails :=
    evolves.sink_keeps (fun _ text neverFails => neverFails.after_write text) neverFails
  have alike := alike_reset (top.after evolves) still freshNeverFails
  rw [sameSettings] at alike
  exact ⟨alike.states.describe_eq alike.states.globals, alike.observeAll⟩

/-- If one of two matching lists of observations is there, then so is the other. -/
theorem exists_matching {seen : List Observation} {seen' : Option (List Observation)}
    (matched : Option.Rel (List.Forall₂ Observation.Matches) (some seen) seen') :
    ∃ others, seen' = some others ∧ List.Forall₂ Observation.Matches seen others := by
  cases matched with
  | some matched => exact ⟨_, rfl, matched⟩

/-- Before the reset an object is made, and there are a text that is no program and a fault; after
it there are another object and a fault. -/
theorem reset_as_good_as_fresh_after_fault :
    let object := Expr.object .null []
    let history := [(Stmt.var "a" object).encode, "?", (Stmt.expr (.ref "b")).encode]
    let inputs := [(Stmt.expr object).encode, (Stmt.expr (.ref "a")).encode]
    ∃ exchanges session seen seen',
      (start .default .unlimited).evalAll 9 history = some (exchanges, session) ∧
      session.state.heap.objects.size = 1 ∧
      session.reset.observeAll 9 inputs = some seen ∧
      seen.map (·.result.isOk) = [true, false] ∧
      (start .default .unlimited).observeAll 9 inputs = some seen' ∧
      List.Forall₂ Observation.Matches seen seen' := by
  intro object history inputs
  have read (program : Stmt) := Stmt.decode_of_spells program.spells_encode
  have found : ((start .default .unlimited).evalAll 9 history).map (fun answer =>
      (answer.2.state.heap.objects.size,
        (answer.2.reset.observeAll 9 inputs).map fun seen => seen.map (·.result.isOk))) =
      some (1, some [true, false]) := by
    simp only [history, inputs, evalAll, observeAll, observe, Session.eval, read]
    decide +kernel
  obtain ⟨⟨exchanges, session⟩, answered, same⟩ := Option.map_eq_some_iff.mp found
  obtain ⟨sameSize, sameResults⟩ := Prod.mk.inj same
  obtain ⟨seen, observed, results⟩ := Option.map_eq_some_iff.mp sameResults
  have matched := (reset_as_good_as_fresh Sink.neverFails_unlimited Sink.neverFails_unlimited
    answered).2 9 inputs
  rw [observed] at matched
  obtain ⟨seen', observed', matched⟩ := exists_matching matched
  exact ⟨exchanges, session, seen, seen', answered, sameSize, observed, results, observed', matched⟩

end Session

end SlotLang
