import SlotLang.Proofs.Machine.CallDepth
import SlotLang.Proofs.Machine.Provenance

/-!
# Only loops can run forever

Code in which no loop occurs, run where no routine has a loop, comes to an end. The bodies of calls
are found while the code runs, so they are no parts of it, and a call may lead to code that is
larger than the call. But there are two things that do not grow. A body is one level deeper, and
there are only so many levels. And every body that is found, whether it was there at the start or
was declared on the way, is no larger than the largest that was there at the start or occurs in the
code. With both, a bound that is large enough can be given beforehand.
-/

namespace SlotLang

namespace Termination

variable {admitted : Routine → Prop} {σ : Settings} {depth : Nat} {α β γ δ : Type}

/-- The state is at a depth, and a call from it finds a routine that is admitted. No other routine
can be reached by a name. -/
structure Ready (admitted : Routine → Prop) (depth : Nat) (s : State) : Prop where
  /-- Only admitted routines can be found by a name. -/
  holds : s.HoldsOnly admitted
  /-- Calls are nested as deep as `depth` says. -/
  depth_eq : s.depth = depth

/-- Whatever happens to a state leaves its depth. -/
theorem Ready.after {s t : State} (ready : Ready admitted depth s) (evolves : s.Evolves σ t)
    (holds : t.HoldsOnly admitted) : Ready admitted depth t :=
  ⟨holds, evolves.depth_eq.trans ready.depth_eq⟩

/-- Both runs have come to an end, in the same state and with the same fault, if any. Neither was
interrupted. -/
inductive Outcomes (admitted : Routine → Prop) (depth : Nat) (V : α → β → Prop) :
    Outcome α → Outcome β → Prop where
  | done {value : α} {value' : β} (same : V value value') {s : State}
      (ready : Ready admitted depth s) :
      Outcomes admitted depth V (.done value s) (.done value' s)
  | failed (fault : Fault) {s : State} (ready : Ready admitted depth s) :
      Outcomes admitted depth V (.failed fault s) (.failed fault s)

/-- From every state at the depth both actions come to an end, back at the depth. That the two are
equal comes with it, for the bounds may differ. -/
def Completes (admitted : Routine → Prop) (depth : Nat) (V : α → β → Prop) (left : Action α)
    (right : Action β) : Prop :=
  ∀ s, Ready admitted depth s → Outcomes admitted depth V (left s) (right s)

/-- Two actions in sequence come to an end if each of them does, from whatever state the first
leaves. -/
theorem completes_bind {V : α → β → Prop} {W : γ → δ → Prop} {first : Action α}
    {first' : Action β} {next : α → Action γ} {next' : β → Action δ}
    (firsts : Completes admitted depth V first first')
    (nexts : ∀ value value', V value value' →
      Completes admitted depth W (next value) (next' value')) :
    Completes admitted depth W (first >>= next) (first' >>= next') := by
  intro s ready
  have ends := firsts s ready
  show Outcomes admitted depth W (Action.bind first next s) (Action.bind first' next' s)
  unfold Action.bind
  generalize first s = ended, first' s = ended' at ends ⊢
  cases ends with
  | done same later => exact nexts _ _ same _ later
  | failed fault later => exact .failed fault later

/-- A look-up comes to an end and leaves the state as it is. What it finds is of a kind that the
state holds, which is how admitted routines are found. -/
theorem completes_lookup {V : α → α → Prop} {find : State → Except Fault α}
    (found : ∀ {s value}, s.HoldsOnly admitted → find s = .ok value → V value value) :
    Completes admitted depth V (fun s => Action.ofExcept (find s) s)
      (fun s => Action.ofExcept (find s) s) := by
  intro s ready
  dsimp only
  cases answer : find s with
  | ok value => exact .done (found ready.holds answer) ready
  | error fault => exact .failed fault ready

/-- A change that binds no routine that is not admitted. -/
theorem completes_change {change : State → State} (evolves : ∀ s : State, s.Evolves σ (change s))
    (kept : ∀ s, s.HoldsOnly admitted → (change s).HoldsOnly admitted) :
    Completes admitted depth Eq (Action.change change) (Action.change change) :=
  fun s ready => .done rfl (ready.after (evolves s) (kept s ready.holds))

/-! ## Operations on the state -/

/-- Printing comes to an end, whether the sink takes the text or refuses it, and binds nothing. -/
theorem completes_print (text : String) :
    Completes admitted depth Eq (Eval.print text) (Eval.print text) := by
  intro s ready
  unfold Eval.print
  generalize s.sink.write text = written
  obtain ⟨refused, sink⟩ := written
  have later : Ready admitted depth { s with sink } :=
    ⟨⟨ready.holds.globals, ready.holds.objects⟩, ready.depth_eq⟩
  cases refused with
  | none => exact .done rfl later
  | some fault => exact .failed fault later

section Values

variable {V : Value → Value → Prop} (refl : ∀ value, V value value)

include refl

/-- So does an operator of an array. -/
theorem completes_applyElements (id : ArrayId) (op : ArrayOp) (operands : List Int64) :
    Completes admitted depth V (Eval.applyElements id op operands)
      (Eval.applyElements id op operands) := by
  intro s ready
  unfold Eval.applyElements
  cases op.value (s.heap.elements id) operands with
  | ok value =>
    exact .done (refl value) ⟨⟨ready.holds.globals, ready.holds.objects⟩, ready.depth_eq⟩
  | error fault => exact .failed fault ready

/-- So does an assignment; it binds a value, and so no routine. -/
theorem completes_assignValue (σ : Settings) (name : String) (value : Value) :
    Completes admitted depth V (Eval.assignValue name value) (Eval.assignValue name value) := by
  intro s ready
  unfold Eval.assignValue
  cases assigned : s.assign name value with
  | ok t =>
    exact .done (refl _) (ready.after (.assign (σ := σ) assigned) (ready.holds.assign assigned))
  | error fault => exact .failed fault ready

end Values

/-- A call fails if there is no level left. Otherwise it comes to an end if its body does, one level
deeper. -/
theorem completes_enter (scope : Scope) {V : Value → Value → Prop} {body : Action Value}
    (bodies : depth < σ.maxCallDepth → Completes admitted (depth + 1) V body body) :
    Completes admitted depth V (Eval.enter σ scope body) (Eval.enter σ scope body) := by
  rintro s ⟨holds, rfl⟩
  by_cases within : s.depth < σ.maxCallDepth
  · have ends := bodies within { s with locals := some scope, depth := s.depth + 1 }
      ⟨⟨holds.globals, holds.objects⟩, rfl⟩
    rw [Eval.enter_of_within within]
    generalize body _ = ended at ends ⊢
    cases ends with
    | done same later =>
      exact .done same ⟨⟨later.holds.globals, later.holds.objects⟩, by simp [later.depth_eq]⟩
    | failed fault later =>
      exact .failed fault ⟨⟨later.holds.globals, later.holds.objects⟩, by simp [later.depth_eq]⟩
  · rw [Eval.enter_of_deep (Nat.le_of_not_lt within)]
    exact .failed _ ⟨holds, rfl⟩

/-! ## Evaluation -/

/-- A run beside itself. Routines are admitted that code may declare and call, and scopes that hold
no others. -/
def comparison (admitted : Routine → Prop) (depth : Nat) : Comparison where
  arrays := Eq
  objects := Eq
  scopes := fun scope scope' => scope = scope' ∧ scope.HoldsOnly admitted
  names := fun _ => True
  routines := fun routine routine' => routine = routine' ∧ admitted routine
  passes := fun _ => True
  actions := Completes admitted depth

/-- Every value goes with itself, as both runs are one. -/
theorem values_self (value : Value) : (comparison admitted depth).Values value value :=
  Value.Corresponds.iff_eq.mpr rfl

/-- Actions that come to an end may be put together. The second starts back at the depth, where it
comes to an end as well. -/
theorem composes (admitted : Routine → Prop) (depth : Nat) :
    (comparison admitted depth).Composes where
  passesSame := trivial
  passesValues := trivial
  passesObjects := trivial
  passesScopes := trivial
  passesRoutines := trivial
  pure := fun same _ ready => .done same ready
  fail := fun fault _ ready => .failed fault ready
  bind := fun _ => completes_bind

/-- So the comparison is a congruence. Here the operations have to be gone through one by one,
because what they bind has to be admitted. -/
theorem congruence (admitted : Routine → Prop) (depth : Nat) (σ : Settings) :
    (comparison admitted depth).Congruence σ σ where
  toComposes := composes admitted depth
  sameName := fun same => congrArg Routine.name same.1
  sameParams := fun same => congrArg Routine.params same.1
  print := completes_print
  makeArray := fun elements s ready =>
    .done (values_self _) ⟨⟨ready.holds.globals, ready.holds.objects⟩, ready.depth_eq⟩
  applyElements := by
    rintro id _ op operands rfl
    exact completes_applyElements values_self id op operands
  freshLocals := ⟨rfl, .empty _⟩
  freshObject := ⟨rfl, .empty _⟩
  bindValue := by
    rintro t _ v v' name ⟨rfl, holds⟩ same
    cases Value.Corresponds.iff_eq.mp same
    exact ⟨rfl, holds.insert_var name v⟩
  bindRoutine := by
    rintro t _ routine _ name ⟨rfl, holds⟩ ⟨rfl, declared⟩
    exact ⟨rfl, holds.insert_routine name declared⟩
  slots := by
    rintro id _ rfl s ready
    exact .done ⟨rfl, ready.holds.objects id⟩ ready
  makeObject := by
    rintro slots _ ⟨rfl, members⟩ s ready
    exact .done (values_self _) ⟨ready.holds.addObject members, ready.depth_eq⟩
  readSlot := by
    rintro id _ name rfl
    exact completes_lookup fun _ _ => values_self _
  replaceSlot := by
    rintro id _ evaluate evaluate' name rfl evaluated
    apply (composes admitted depth).replaceSlot
      (completes_lookup fun _ _ => values_self _) evaluated
    intro v v' same
    cases Value.Corresponds.iff_eq.mp same
    intro s ready
    exact .done rfl ⟨ready.holds.putSlot id name v, ready.depth_eq⟩
  findMethod := by
    rintro id _ name rfl
    exact completes_lookup fun holds found => ⟨rfl, holds.method found⟩
  findFunction := fun name => completes_lookup fun holds found => ⟨rfl, holds.function found⟩
  readVariable := fun _ => completes_lookup fun _ _ => values_self _
  assignValue := by
    intro name v v' _ same
    cases Value.Corresponds.iff_eq.mp same
    exact completes_assignValue values_self σ name v
  declare := by
    intro name v v' _ same
    cases Value.Corresponds.iff_eq.mp same
    exact completes_change (fun s => .declare (σ := σ) s name v) fun s holds => holds.declare name v
  bindGlobal := by
    rintro routine _ ⟨rfl, declared⟩
    exact completes_change (fun s => .bindGlobal (σ := σ) s routine) fun s holds =>
      holds.bindRoutine routine.name declared

/-- A routine without a loop, whose body is not larger than `size`. The size bounds the induction
over bodies. -/
def LoopFree (size : Nat) (routine : Routine) : Prop :=
  (Code.stmt routine.body).hasLoop = false ∧ sizeOf (Code.stmt routine.body) ≤ size

/-- A bound that is large enough: for the code itself and, on each level that is left, for one body
of the largest size. The induction is on the bound. A part of the code is smaller on the same level,
and a body is one level deeper, where it may again be of any size up to the largest. -/
theorem completes_eval {size bound : Nat} {code : Code} (free : code.hasLoop = false)
    (small : sizeOf code ≤ size)
    (enough : sizeOf code + size * (σ.maxCallDepth - depth) ≤ bound) :
    Completes (LoopFree size) depth (comparison (LoopFree size) depth).Values (eval σ bound code)
      (eval σ bound code) := by
  induction bound generalizing code depth with
  | zero =>
    have positive := code.sizeOf_pos
    omega
  | succ bound inductionHypothesis =>
    obtain ⟨noLoop, freeParts, freeBodies⟩ := Code.hasLoop_eq_false.mp free
    rw [eval_succ]
    apply Comparison.actions_step (congruence (LoopFree size) depth σ)
    case parts =>
      intro part inside
      have smaller := Code.sizeOf_part inside
      exact inductionHypothesis (freeParts part inside) (by omega) (by omega)
    case named => exact fun _ _ => trivial
    case declared =>
      intro routine declared
      have smaller := Code.sizeOf_body declared
      exact ⟨rfl, freeBodies routine declared, by omega⟩
    case called =>
      rintro routine _ scope _ ⟨rfl, freeBody, smallBody⟩ ⟨rfl, _⟩
      apply completes_enter
      intro within
      -- The level that the call uses up pays for the body, whatever its size.
      have levels : size * (σ.maxCallDepth - depth) =
          size * (σ.maxCallDepth - (depth + 1)) + size := by
        rw [← Nat.mul_succ]
        congr 1
        omega
      have positive := code.sizeOf_pos
      exact inductionHypothesis freeBody smallBody (by omega)
    case looped =>
      rintro pred body rfl
      cases noLoop

end Termination

/-- Only loops can run forever. If no loop occurs in the code and none in the functions and methods
that can be called at the start, the run ends, with a value or with a fault, whatever the limit on
the depth of calls. Nothing is asked of functions in the local scope, since calls do not look
there. -/
theorem loop_free_terminates {σ : Settings} {code : Code} {s : State}
    (free : code.hasLoop = false)
    (callable : s.HoldsOnly fun routine => (Code.stmt routine.body).hasLoop = false) :
    ∃ outcome, Ends σ code s outcome := by
  obtain ⟨largest, bounded⟩ :=
    s.exists_bound fun routine => sizeOf (Code.stmt routine.body)
  have holds : s.HoldsOnly (Termination.LoopFree (largest + sizeOf code)) :=
    (callable.and bounded).mono fun routine ⟨free, small⟩ => ⟨free, by omega⟩
  rcases diverges_or_ends σ code s with diverges | ends
  · have completes := Termination.completes_eval (σ := σ) free (Nat.le_add_left _ largest)
      (Nat.le_refl _) s ⟨holds, rfl⟩
    rw [diverges] at completes
    cases completes
  · exact ends

/-- A function declares another, which calls the first with what it yields itself, and a method
calls itself. -/
theorem loop_free_terminates_mutual :
    let inner : Routine := ⟨"g", [], .expr (.call "f" [.call "g" []])⟩
    let outer : Routine := ⟨"f", ["x"], .seq (.fn inner) (.expr (.call "g" []))⟩
    let again : Routine := ⟨"m", [], .expr (.callSlot (.ref "this") "m" [])⟩
    let s : State := { State.initial .default .unlimited with
      globals := (Table.empty 1).insert "f" (.routine outer)
      heap := ⟨#[], #[(Table.empty 1).insert "m" (.routine again)]⟩ }
    let code : Code := .expr (.call "f" [.int 1])
    code.hasLoop = false ∧
      (s.HoldsOnly fun routine => (Code.stmt routine.body).hasLoop = false) ∧
      ∃ outcome, Ends .default code s outcome := by
  intro inner outer again s code
  have free : code.hasLoop = false := by decide +kernel
  have callable : s.HoldsOnly fun routine => (Code.stmt routine.body).hasLoop = false := by
    constructor
    · exact (Scope.HoldsOnly.empty 1).insert_routine "f" (by decide +kernel)
    · rintro ⟨_ | _⟩
      · exact (Scope.HoldsOnly.empty 1).insert_routine "m" (by decide +kernel)
      · exact .empty 0
  exact ⟨free, callable, loop_free_terminates free callable⟩

end SlotLang
