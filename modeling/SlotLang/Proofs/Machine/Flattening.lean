import SlotLang.Proofs.Machine.Bound
import SlotLang.Proofs.Machine.Provenance

/-!
# Other ways to run a sequence

A sequence can be run in other ways than by running its two parts one level deeper. One may walk
along its right spine in a loop, which goes a level deeper only for the statements on the left. Or
one may run all statements in sequence on one level, however they nest. All three come to the same:
wherever one of them ends, so do the others, in the same outcome. They need different bounds. The
plain way may need one more level for each sequence inside another, but no code that a run ever
meets is larger than the largest that was there at the start.
-/

namespace SlotLang

namespace Eval

/-- Run a statement, walking along the right spine of a sequence. First statements are run on their
own, one level down. -/
def walk (run : Evaluator) : Stmt → Action Value
  | .seq first second => do
    let _ ← run (.stmt first)
    walk run second
  | .var name init => statement run (.var name init)
  | .fn routine => statement run (.fn routine)
  | .expr e => statement run (.expr e)

/-- Run the statements in sequence, on one level. However they are nested, the same statements are
run in the same order. -/
def flatten (run : Evaluator) : Stmt → Action Value
  | .seq first second => do
    let _ ← flatten run first
    flatten run second
  | .var name init => statement run (.var name init)
  | .fn routine => statement run (.fn routine)
  | .expr e => statement run (.expr e)

end Eval

/-- Run code as `eval` does, but walk along the right spine of sequences. A long chain of statements
then takes one level and not one for each. -/
def evalSpine (σ : Settings) : Nat → Evaluator
  | 0, _ => Action.interrupt
  | bound + 1, .expr e => Eval.expression σ bound (evalSpine σ bound) e
  | bound + 1, .stmt s => Eval.walk (evalSpine σ bound) s

/-- Run code as `eval` does, but run all statements in sequence on one level. -/
def evalFlat (σ : Settings) : Nat → Evaluator
  | 0, _ => Action.interrupt
  | bound + 1, .expr e => Eval.expression σ bound (evalFlat σ bound) e
  | bound + 1, .stmt s => Eval.flatten (evalFlat σ bound) s

/-! ## Runs that hold the same routines -/

namespace Correspondence

/-- Both runs hold the same, and routines of one kind only can be called. Which kind it is depends
on what the induction has covered. -/
def within (admitted : Routine → Prop) : Correspondence where
  arrays := Eq
  objects := Eq
  routines := fun routine routine' => routine = routine' ∧ admitted routine
  scopes := fun scope scope' => scope = scope' ∧ scope.HoldsOnly admitted
  faults := Eq
  states := fun s s' => s = s' ∧ s.HoldsOnly admitted

variable {admitted : Routine → Prop} {α : Type}

/-- Values within the same are equal. -/
theorem within_values {v v' : Value} : (within admitted).Values v v' ↔ v = v' :=
  Value.Corresponds.iff_eq

/-- What follows within the same is the same, unless it was interrupted. -/
theorem within_outcomes {outcome outcome' : Outcome Value}
    (same : (within admitted).Outcomes (within admitted).Values outcome outcome') :
    outcome = .interrupted ∨ outcome = outcome' := by
  cases same with
  | done same later =>
    cases later.1
    cases within_values.mp same
    exact .inr rfl
  | failed same later =>
    cases later.1
    cases same
    exact .inr rfl
  | interrupted outcome => exact .inl rfl

/-- A look-up that finds admitted routines only. -/
theorem within_answers {V : α → α → Prop} {answer : Except Fault α}
    (found : ∀ value, answer = .ok value → V value value) :
    (within admitted).Answers V answer answer := by
  cases answer with
  | ok value => exact .ok (found value rfl)
  | error fault => exact .error rfl

/-- Printing does the same on both sides and changes no routine. -/
theorem within_print (text : String) :
    (within admitted).Follows Eq (Eval.print text) (Eval.print text) := by
  rintro s _ ⟨rfl, holds⟩
  unfold Eval.print
  generalize s.sink.write text = written
  obtain ⟨refused, sink⟩ := written
  cases refused with
  | none => exact .done rfl ⟨rfl, holds.globals, holds.objects⟩
  | some fault => exact .failed rfl ⟨rfl, holds.globals, holds.objects⟩

/-- So does an operator of an array. -/
theorem within_applyElements (id : ArrayId) (op : ArrayOp) (operands : List Int64) :
    (within admitted).Follows (within admitted).Values (Eval.applyElements id op operands)
      (Eval.applyElements id op operands) := by
  rintro s _ ⟨rfl, holds⟩
  unfold Eval.applyElements
  cases op.value (s.heap.elements id) operands with
  | ok value => exact .done (within_values.mpr rfl) ⟨rfl, holds.globals, holds.objects⟩
  | error fault => exact .failed rfl ⟨rfl, holds⟩

/-- A call does the same on both sides if its body does. The routines that can be called are those
of the whole state, whichever scope is the local one. -/
theorem within_enter (σ : Settings) (scope : Scope) {body body' : Action Value}
    (bodies : (within admitted).Follows (within admitted).Values body body') :
    (within admitted).Follows (within admitted).Values (Eval.enter σ scope body)
      (Eval.enter σ scope body') := by
  refine follows_call rfl bodies (fun _ => rfl) (fun same => congrArg State.depth same.1) ?_ ?_
  · rintro s _ ⟨rfl, holds⟩
    exact ⟨rfl, holds.globals, holds.objects⟩
  · rintro s _ u _ ⟨rfl, _⟩ ⟨rfl, later⟩
    exact ⟨rfl, later.globals, later.objects⟩

/-- Every operation on the state does the same on both sides and binds admitted routines only, if
only such are declared. -/
theorem within_respected (σ : Settings) : (within admitted).Respected σ σ where
  sameName := fun same => congrArg Routine.name same.1
  sameParams := fun same => congrArg Routine.params same.1
  fault := fun _ => rfl
  print := within_print
  addArray := by
    rintro s _ elements ⟨rfl, holds⟩
    exact ⟨rfl, rfl, holds.globals, holds.objects⟩
  applyElements := by
    rintro id _ op operands rfl
    exact within_applyElements id op operands
  freshLocals := ⟨rfl, .empty _⟩
  freshObject := ⟨rfl, .empty _⟩
  bindValue := by
    rintro scope _ value value' name ⟨rfl, holds⟩ same
    cases within_values.mp same
    exact ⟨rfl, holds.insert_var name value⟩
  bindRoutine := by
    rintro scope _ routine _ name ⟨rfl, holds⟩ ⟨rfl, declared⟩
    exact ⟨rfl, holds.insert_routine name declared⟩
  slots := by
    rintro id _ s _ rfl ⟨rfl, holds⟩
    exact ⟨rfl, holds.objects id⟩
  addObject := by
    rintro slots _ s _ ⟨rfl, members⟩ ⟨rfl, holds⟩
    exact ⟨rfl, rfl, holds.addObject members⟩
  readSlot := by
    rintro id _ s _ name rfl ⟨rfl, holds⟩
    exact within_answers fun _ _ => within_values.mpr rfl
  putSlot := by
    rintro id _ value value' s _ name rfl same ⟨rfl, holds⟩
    cases within_values.mp same
    exact ⟨rfl, holds.putSlot id name value⟩
  method := by
    rintro id _ s _ name rfl ⟨rfl, holds⟩
    exact within_answers fun _ found => ⟨rfl, holds.method found⟩
  function := by
    rintro s _ name ⟨rfl, holds⟩
    exact within_answers fun _ found => ⟨rfl, holds.function found⟩
  readVariable := by
    rintro s _ name ⟨rfl, holds⟩
    exact within_answers fun _ _ => within_values.mpr rfl
  assign := by
    rintro value value' s _ name same ⟨rfl, holds⟩
    cases within_values.mp same
    exact within_answers fun _ assigned => ⟨rfl, holds.assign assigned⟩
  declare := by
    rintro value value' s _ name same ⟨rfl, holds⟩
    cases within_values.mp same
    exact ⟨rfl, holds.declare name value⟩
  bindGlobal := by
    rintro s _ routine _ name ⟨rfl, declared⟩ ⟨rfl, holds⟩
    exact ⟨rfl, holds.bindRoutine name declared⟩
  enter := by
    rintro scope _ body body' ⟨rfl, _⟩ bodies
    exact within_enter σ scope bodies

/-- The right run ends as the left one does, unless the left one is interrupted. It may go on where
the left one is. -/
abbrev OutlastedBy (admitted : Routine → Prop) (left right : Action Value) : Prop :=
  (within admitted).Follows (within admitted).Values left right

/-- Where the left run ends, the right one ends in the same outcome. -/
theorem OutlastedBy.eq {left right : Action Value} (outlasted : OutlastedBy admitted left right)
    {s : State} (holds : s.HoldsOnly admitted) (ended : left s ≠ .interrupted) :
    right s = left s := by
  rcases within_outcomes (outlasted s s ⟨rfl, holds⟩) with interrupted | same
  · exact absurd interrupted ended
  · exact same.symm

/-- One construct outlasts itself if its parts do and the routines that can be called. The right
bound is no lower, so that loops have as many turns. -/
theorem outlastedBy_step {σ : Settings} {run run' : Evaluator} {bound bound' : Nat}
    (enough : bound ≤ bound') (code : Code)
    (parts : ∀ part ∈ code.parts, OutlastedBy admitted (run part) (run' part))
    (declared : ∀ routine ∈ code.routines, admitted routine)
    (bodies : ∀ routine, admitted routine →
      OutlastedBy admitted (run (.stmt routine.body)) (run' (.stmt routine.body))) :
    OutlastedBy admitted (Eval.step σ bound run code) (Eval.step σ bound' run' code) := by
  have laws : (within admitted).comparison.Congruence σ σ := congruence (within_respected σ)
  obtain ⟨more, rfl⟩ := Nat.exists_eq_add_of_le enough
  apply Comparison.actions_step laws
  case parts => exact parts
  case named => exact fun _ _ => trivial
  case declared => exact fun routine inside => ⟨rfl, declared routine inside⟩
  case called =>
    rintro routine _ scope _ ⟨rfl, callable⟩ ⟨rfl, _⟩
    exact within_enter σ scope (bodies routine callable)
  case looped =>
    rintro pred body rfl
    apply Comparison.actions_turns laws bound more
    · exact parts _ (by simp [Code.parts])
    · exact parts _ (by simp [Code.parts])
    · exact fun _ _ _ => .interrupted _

end Correspondence

/-! ## The three ways -/

open Correspondence

/-- Walking along the spine outlasts the plain way. The induction is on the bound: what the plain
way runs one level deeper, the walk runs on the same level. -/
theorem eval_outlastedBy_evalSpine (σ : Settings) {bound bound' : Nat} (enough : bound ≤ bound')
    (code : Code) :
    OutlastedBy (fun _ => True) (eval σ bound code) (evalSpine σ bound' code) := by
  induction bound generalizing bound' code with
  | zero => exact fun _ _ _ => .interrupted _
  | succ bound inductionHypothesis =>
    obtain ⟨bound', rfl⟩ := Nat.exists_eq_add_one_of_ne_zero (Nat.ne_zero_of_lt enough)
    have deeper : bound ≤ bound' := Nat.le_of_succ_le_succ enough
    have sameLevel : bound ≤ bound' + 1 := Nat.le_succ_of_le deeper
    have step (code : Code) : OutlastedBy (fun _ => True) (Eval.step σ bound (eval σ bound) code)
        (Eval.step σ bound' (evalSpine σ bound') code) :=
      outlastedBy_step deeper code (fun part _ => inductionHypothesis deeper part)
        (fun _ _ => trivial) fun _ _ => inductionHypothesis deeper _
    rw [eval_succ]
    cases code with
    | expr e => exact step (.expr e)
    | stmt s =>
      cases s with
      | var name init => exact step (.stmt (.var name init))
      | fn routine => exact step (.stmt (.fn routine))
      | expr e => exact step (.stmt (.expr e))
      | seq first second =>
        apply follows_bind (inductionHypothesis deeper (.stmt first))
        intro _ _ _
        exact inductionHypothesis sameLevel (.stmt second)

/-- Running a sequence on one level outlasts walking along its spine. -/
theorem evalSpine_outlastedBy_evalFlat (σ : Settings) {bound bound' : Nat} (enough : bound ≤ bound')
    (code : Code) :
    OutlastedBy (fun _ => True) (evalSpine σ bound code) (evalFlat σ bound' code) := by
  induction bound generalizing bound' code with
  | zero => exact fun _ _ _ => .interrupted _
  | succ bound inductionHypothesis =>
    obtain ⟨bound', rfl⟩ := Nat.exists_eq_add_one_of_ne_zero (Nat.ne_zero_of_lt enough)
    have deeper : bound ≤ bound' := Nat.le_of_succ_le_succ enough
    have sameLevel : bound ≤ bound' + 1 := Nat.le_succ_of_le deeper
    have step (code : Code) :
        OutlastedBy (fun _ => True) (Eval.step σ bound (evalSpine σ bound) code)
          (Eval.step σ bound' (evalFlat σ bound') code) :=
      outlastedBy_step deeper code (fun part _ => inductionHypothesis deeper part)
        (fun _ _ => trivial) fun _ _ => inductionHypothesis deeper _
    -- Along the spine the bound stays. What hangs off it to the left goes a level deeper.
    have walk : ∀ s, OutlastedBy (fun _ => True) (Eval.walk (evalSpine σ bound) s)
        (Eval.flatten (evalFlat σ bound') s) := by
      intro s
      induction s using Eval.walk.induct with
      | case1 first second spineHypothesis =>
        have firsts : OutlastedBy (fun _ => True) (evalSpine σ bound (.stmt first))
            (Eval.flatten (evalFlat σ bound') first) :=
          inductionHypothesis sameLevel (.stmt first)
        apply follows_bind firsts
        intro _ _ _
        exact spineHypothesis
      | case2 name init => exact step (.stmt (.var name init))
      | case3 routine => exact step (.stmt (.fn routine))
      | case4 e => exact step (.stmt (.expr e))
    cases code with
    | expr e => exact step (.expr e)
    | stmt s => exact walk s

/-- The body of the routine is not larger than `size`. -/
def Routine.Within (size : Nat) (routine : Routine) : Prop :=
  sizeOf (Code.stmt routine.body) ≤ size

/-- If the plain way outlasts every statement that is no sequence from `base` levels on, then it
outlasts a sequence on one level too. Each sequence uses up a level more, and its parts are
smaller. -/
theorem flatten_outlastedBy_eval {σ : Settings} {admitted : Routine → Prop} {run : Evaluator}
    {bound size base : Nat}
    (step : ∀ {code : Code} {bound' : Nat}, base + 1 ≤ bound' → sizeOf code ≤ size →
      OutlastedBy admitted (Eval.step σ bound run code) (eval σ bound' code))
    {s : Stmt} {bound' : Nat} (small : sizeOf (Code.stmt s) ≤ size)
    (enough : base + sizeOf s ≤ bound') :
    OutlastedBy admitted (Eval.flatten run s) (eval σ bound' (.stmt s)) := by
  induction s using Eval.flatten.induct generalizing bound' with
  | case1 first second firstHypothesis secondHypothesis =>
    simp only [Code.stmt.sizeOf_spec, Stmt.seq.sizeOf_spec] at small enough
    obtain ⟨bound', rfl⟩ := Nat.exists_eq_add_one_of_ne_zero (n := bound') (by omega)
    rw [eval_succ]
    apply follows_bind
    · apply firstHypothesis
      · simp only [Code.stmt.sizeOf_spec]
        omega
      · omega
    · intro _ _ _
      apply secondHypothesis
      · simp only [Code.stmt.sizeOf_spec]
        omega
      · omega
  | case2 name init =>
    simp only [Stmt.var.sizeOf_spec] at enough
    exact step (by omega) small
  | case3 routine =>
    simp only [Stmt.fn.sizeOf_spec] at enough
    exact step (by omega) small
  | case4 e =>
    simp only [Stmt.expr.sizeOf_spec] at enough
    exact step (by omega) small

/-- The plain way outlasts running a sequence on one level, if it may go deeper for each sequence
inside another. There are no more of these than code is large, and no code is larger than `size`. -/
theorem evalFlat_outlastedBy_eval (σ : Settings) (size : Nat) {bound bound' : Nat}
    (enough : bound * (size + 1) ≤ bound') {code : Code} (small : sizeOf code ≤ size) :
    OutlastedBy (Routine.Within size) (evalFlat σ bound code) (eval σ bound' code) := by
  induction bound generalizing bound' code with
  | zero => exact fun _ _ _ => .interrupted _
  | succ bound inductionHypothesis =>
    have levels : (bound + 1) * (size + 1) = bound * (size + 1) + size + 1 := by
      rw [Nat.add_mul, Nat.one_mul, Nat.add_assoc]
    have turns : bound ≤ bound * (size + 1) := Nat.le_mul_of_pos_right bound (Nat.succ_pos size)
    have step {code : Code} {bound' : Nat} (enough : bound * (size + 1) + 1 ≤ bound')
        (small : sizeOf code ≤ size) :
        OutlastedBy (Routine.Within size) (Eval.step σ bound (evalFlat σ bound) code)
          (eval σ bound' code) := by
      obtain ⟨bound', rfl⟩ := Nat.exists_eq_add_one_of_ne_zero (Nat.ne_zero_of_lt enough)
      rw [eval_succ]
      apply outlastedBy_step
      · omega
      · intro part inside
        have smaller := Code.sizeOf_part inside
        exact inductionHypothesis (by omega) (by omega)
      · intro routine declared
        have smaller := Code.sizeOf_body declared
        exact Nat.le_of_lt (Nat.lt_of_lt_of_le smaller small)
      · exact fun routine callable => inductionHypothesis (by omega) callable
    cases code with
    | expr e => exact step (by omega) small
    | stmt s =>
      have within : sizeOf s ≤ size := by
        simp only [Code.stmt.sizeOf_spec] at small
        omega
      exact flatten_outlastedBy_eval step small (by omega)

/-- A run ends as it does on one level. The bounds that are needed differ, and neither run ends
where the other does not. -/
theorem ends_iff_evalFlat {σ : Settings} {code : Code} {s : State} {outcome : Outcome Value} :
    Ends σ code s outcome ↔
      outcome ≠ .interrupted ∧ ∃ bound, evalFlat σ bound code s = outcome := by
  have holds : s.HoldsOnly fun _ => True := ⟨fun _ _ _ => trivial, fun _ _ _ _ => trivial⟩
  constructor
  · rintro ⟨ended, bound, rfl⟩
    have spine := (eval_outlastedBy_evalSpine σ (Nat.le_refl bound) code).eq holds ended
    have flat := (evalSpine_outlastedBy_evalFlat σ (Nat.le_refl bound) code).eq holds
      (spine ▸ ended)
    exact ⟨ended, bound, flat.trans spine⟩
  · rintro ⟨ended, bound, rfl⟩
    obtain ⟨largest, bounded⟩ := s.exists_bound fun routine => sizeOf (Code.stmt routine.body)
    have small : s.HoldsOnly (Routine.Within (largest + sizeOf code)) :=
      bounded.mono fun routine small => Nat.le_add_right_of_le small
    have plain := evalFlat_outlastedBy_eval σ (largest + sizeOf code) (Nat.le_refl _)
      (Nat.le_add_left _ largest) |>.eq small ended
    exact ⟨ended, _, plain⟩

/-- Code runs forever just if it does when all statements in sequence are run on one level: an
outcome of either way to run it is an outcome of the other. -/
theorem diverges_iff_evalFlat {σ : Settings} {code : Code} {s : State} :
    Diverges σ code s ↔ ∀ bound, evalFlat σ bound code s = .interrupted := by
  constructor
  · intro diverges bound
    by_contra ended
    obtain ⟨_, enough, same⟩ := ends_iff_evalFlat.mpr ⟨ended, bound, rfl⟩
    exact ended (same.symm.trans (diverges enough))
  · intro stopped bound
    by_contra ended
    obtain ⟨_, enough, same⟩ := ends_iff_evalFlat.mp ⟨ended, bound, rfl⟩
    exact ended (same.symm.trans (stopped enough))

/-- A run ends as it does when it walks along the spine of sequences. -/
theorem ends_iff_evalSpine {σ : Settings} {code : Code} {s : State} {outcome : Outcome Value} :
    Ends σ code s outcome ↔
      outcome ≠ .interrupted ∧ ∃ bound, evalSpine σ bound code s = outcome := by
  have holds : s.HoldsOnly fun _ => True := ⟨fun _ _ _ => trivial, fun _ _ _ _ => trivial⟩
  constructor
  · rintro ⟨ended, bound, rfl⟩
    exact ⟨ended, bound, (eval_outlastedBy_evalSpine σ (Nat.le_refl bound) code).eq holds ended⟩
  · rintro ⟨ended, bound, rfl⟩
    have flat := (evalSpine_outlastedBy_evalFlat σ (Nat.le_refl bound) code).eq holds ended
    exact ends_iff_evalFlat.mpr ⟨ended, bound, flat⟩

end SlotLang
