import SlotLang.Proofs.Machine.Appearance
import SlotLang.Proofs.Machine.Flattening
import SlotLang.Proofs.Machine.Lockstep
import SlotLang.Proofs.Program.Association

/-!
# How sequences nest does not show

Two programs that are the same up to association do the same. They declare different routines, so
the tables of the two runs hold different code. But what is bound to one name on both sides is the
same up to association, and that is kept.

The plain way to run a sequence goes as deep as the sequence nests, so the two runs need different
bounds. They are compared where all statements in sequence run on one level. There they run the same
number of statements in the same order, and are in step.
-/

namespace SlotLang

/-! ## Code that is the same up to association -/

/-- Lists that a function maps to the same list, side by side. -/
theorem forall₂_of_map_eq {α β : Type} {f : α → β} {V : α → α → Prop}
    (same : ∀ x y, f x = f y → V x y) {list list' : List α} (maps : list.map f = list'.map f) :
    List.Forall₂ V list list' := by
  rw [← List.forall₂_eq_eq_eq, List.forall₂_map_left_iff, List.forall₂_map_right_iff] at maps
  exact maps.imp same

section Matching

variable {exprs : Expr → Expr → Prop} {stmts : Stmt → Stmt → Prop}
  {routines : Routine → Routine → Prop}
  (sameExprs : ∀ e e', e.rightNested = e'.rightNested → exprs e e')
  (sameStmts : ∀ s s', s.rightNested = s'.rightNested → stmts s s')
  (sameRoutines : ∀ routine routine' : Routine, routine.rightNested = routine'.rightNested →
    routines routine routine')

include sameExprs sameRoutines

/-- Members that are the same up to association match: variables of one name, or methods of related
routines. -/
theorem Member.matches_of_rightNested (member member' : Member)
    (same : member.rightNested = member'.rightNested) :
    Member.Matches exprs routines member member' := by
  cases member <;> cases member' <;>
    simp only [Member.rightNested, reduceCtorEq, Member.var.injEq, Member.method.injEq] at same
  case var.var name init _ init' =>
    obtain ⟨rfl, inits⟩ := same
    exact .var name (sameExprs _ _ inits)
  case method.method routine routine' => exact .method (sameRoutines _ _ same)

include sameStmts

/-- Expressions that are the same up to association are of the same construct, and their parts are
the same up to association. By cases on both, of which only those with one construct on both sides
are possible. -/
theorem Expr.matches_of_rightNested {e e' : Expr} (same : e.rightNested = e'.rightNested) :
    Code.Matches exprs stmts routines (.expr e) (.expr e') := by
  have arguments {args args' : List Expr}
      (same : args.map Expr.rightNested = args'.map Expr.rightNested) :
      List.Forall₂ exprs args args' := forall₂_of_map_eq sameExprs same
  cases e <;> cases e' <;>
    simp only [Expr.rightNested, Expr.rightNestedAll_eq, Member.rightNestedAll_eq, reduceCtorEq,
      Expr.int.injEq, Expr.printf.injEq, Expr.array.injEq, Expr.object.injEq, Expr.slot.injEq,
      Expr.setSlot.injEq, Expr.callSlot.injEq, Expr.call.injEq, Expr.set.injEq, Expr.cond.injEq,
      Expr.loop.injEq, Expr.ref.injEq] at same
  case int.int n _ =>
    subst same
    exact .int n
  case null.null => exact .null
  case ref.ref name _ =>
    subst same
    exact .ref name
  case printf.printf format args _ args' =>
    obtain ⟨rfl, args⟩ := same
    exact .printf format (arguments args)
  case array.array =>
    obtain ⟨lengths, inits⟩ := same
    exact .array (sameExprs _ _ lengths) (sameExprs _ _ inits)
  case object.object =>
    obtain ⟨parents, members⟩ := same
    exact .object (sameExprs _ _ parents)
      (forall₂_of_map_eq (Member.matches_of_rightNested sameExprs sameRoutines) members)
  case slot.slot e name e' _ =>
    obtain ⟨receivers, rfl⟩ := same
    exact .slot name (sameExprs _ _ receivers)
  case setSlot.setSlot e name value e' _ value' =>
    obtain ⟨receivers, rfl, values⟩ := same
    exact .setSlot name (sameExprs _ _ receivers) (sameExprs _ _ values)
  case callSlot.callSlot e name args e' _ args' =>
    obtain ⟨receivers, rfl, args⟩ := same
    exact .callSlot name (sameExprs _ _ receivers) (arguments args)
  case call.call name args _ args' =>
    obtain ⟨rfl, args⟩ := same
    exact .call name (arguments args)
  case set.set name value _ value' =>
    obtain ⟨rfl, values⟩ := same
    exact .set name (sameExprs _ _ values)
  case cond.cond =>
    obtain ⟨preds, conseqs, alts⟩ := same
    exact .cond (sameExprs _ _ preds) (sameStmts _ _ conseqs) (sameStmts _ _ alts)
  case loop.loop =>
    obtain ⟨preds, bodies⟩ := same
    exact .loop (sameExprs _ _ preds) (sameStmts _ _ bodies)

omit sameStmts in
/-- Statements that are no sequences. -/
theorem Stmt.matches_of_rightNested {s s' : Stmt} (single : ∀ first second, s ≠ .seq first second)
    (single' : ∀ first second, s' ≠ .seq first second) (same : s.rightNested = s'.rightNested) :
    Code.Matches exprs stmts routines (.stmt s) (.stmt s') := by
  cases s <;> cases s' <;>
    simp only [Stmt.rightNested, Stmt.steps, Stmt.ofList, reduceCtorEq, Stmt.var.injEq,
      Stmt.fn.injEq, Stmt.expr.injEq] at same
  case var.var name init _ init' =>
    obtain ⟨rfl, inits⟩ := same
    exact .var name (sameExprs _ _ inits)
  case fn.fn => exact .fn (sameRoutines _ _ same)
  case expr.expr => exact .exprStmt (sameExprs _ _ same)
  case seq.seq first second _ _ => exact absurd rfl (single first second)
  case seq.var first second _ _ => exact absurd rfl (single first second)
  case seq.fn first second _ => exact absurd rfl (single first second)
  case seq.expr first second _ => exact absurd rfl (single first second)
  case var.seq _ _ first second => exact absurd rfl (single' first second)
  case fn.seq _ first second => exact absurd rfl (single' first second)
  case expr.seq _ first second => exact absurd rfl (single' first second)

end Matching

/-! ## Statements in sequence, one by one -/

namespace Eval

/-- Run statements one after the other. The last one yields the value, and with none there is
nothing but null. -/
def inSequence (run : Evaluator) : List Stmt → Action Value
  | [] => pure .null
  | [s] => statement run s
  | s :: rest => do
    let _ ← statement run s
    inSequence run rest

/-- Two lists of statements in sequence are run one after the other. The second must not be empty:
without it the value is that of the last statement of the first list, and not null. -/
theorem inSequence_append (run : Evaluator) (list : List Stmt) {others : List Stmt}
    (nonempty : others ≠ []) :
    inSequence run (list ++ others) = (do
      let _ ← inSequence run list
      inSequence run others) := by
  induction list with
  | nil => exact (pure_bind _ _).symm
  | cons first rest inductionHypothesis =>
    cases rest with
    | nil =>
      rw [List.singleton_append, inSequence, inSequence]
      exact nonempty
    | cons second more =>
      calc (do
            let _ ← statement run first
            inSequence run (second :: more ++ others))
          = (do
            let _ ← statement run first
            let _ ← inSequence run (second :: more)
            inSequence run others) := by rw [inductionHypothesis]
        _ = (do
            let _ ← inSequence run (first :: second :: more)
            inSequence run others) := (bind_assoc _ _ _).symm

/-- To run a sequence on one level is to run its leaves one after the other, however they are
nested. -/
theorem flatten_eq (run : Evaluator) (s : Stmt) : flatten run s = inSequence run s.leaves := by
  induction s using flatten.induct with
  | case1 first second firstHypothesis secondHypothesis =>
    rw [flatten, Stmt.leaves, inSequence_append run first.leaves second.leaves_ne_nil,
      firstHypothesis, secondHypothesis]
  | case2 | case3 | case4 => rfl

end Eval

/-- Lists of statements run in step if their statements do, one by one. -/
theorem Correspondence.inStep_inSequence {R : Correspondence} {run run' : Evaluator}
    {list list' : List Stmt}
    (steps : List.Forall₂ (fun s s' => R.InStep R.Values (Eval.statement run s)
      (Eval.statement run' s')) list list') :
    R.InStep R.Values (Eval.inSequence run list) (Eval.inSequence run' list') := by
  induction steps with
  | nil => exact fun _ _ related => .done .null related
  | cons head tail inductionHypothesis =>
    cases tail with
    | nil => exact head
    | cons second others =>
      apply inStep_bind head
      intro _ _ _
      exact inductionHypothesis

/-! ## Runs that are in step -/

/-- The term that is run. -/
def Code.term : Code → Term
  | .expr e => .expr e
  | .stmt s => .stmt s

namespace Displacement

section InStep

variable {d : Displacement} {σ : Settings} {run run' : Evaluator} {bound : Nat}
  (aligned : d.Aligned)
  (associated : ∀ {routine routine'}, d.routines routine routine' ↔
    routine.Reassociates routine')
  (inside : ∀ {code code' : Code}, code.term.Reassociates code'.term →
    d.correspondence.InStep d.correspondence.Values (run code) (run' code'))

include aligned associated inside

/-- One construct is in step with another of its kind if the code inside is, and the bodies of
routines that are bound to one name. -/
theorem inStep_step {code code' : Code}
    (matching : Code.Matches (d.correspondence.stepwise.Exprs run run')
      (d.correspondence.stepwise.Stmts run run') d.routines code code') :
    d.correspondence.InStep d.correspondence.Values (Eval.step σ bound run code)
      (Eval.step σ bound run' code') := by
  have laws : d.correspondence.stepwise.Congruence σ σ :=
    Correspondence.stepwise_congruence (respected rfl (fun _ => ⟨rfl, rfl⟩) aligned)
  apply Comparison.actions_matching laws matching
  case named => exact fun _ _ => trivial
  case called =>
    intro routine routine' t t' same scopes
    obtain ⟨_, _, bodies⟩ := Routine.reassociates_iff.mp (associated.mp same)
    exact inStep_enter rfl scopes (inside bodies)
  case looped =>
    rintro pred body pred' body' rfl rfl
    cases matching with
    | loop preds bodies =>
      exact Comparison.actions_turns laws bound 0 preds bodies fun _ _ _ => .interrupted

/-- Expressions that are the same up to association run in step, since they are of one construct
whose parts do. -/
theorem inStep_expression {e e' : Expr} (same : e.rightNested = e'.rightNested) :
    d.correspondence.InStep d.correspondence.Values (Eval.expression σ bound run e)
      (Eval.expression σ bound run' e') := by
  have matching : Code.Matches (d.correspondence.stepwise.Exprs run run')
      (d.correspondence.stepwise.Stmts run run') d.routines (.expr e) (.expr e') := by
    apply Expr.matches_of_rightNested _ _ _ same
    · exact fun _ _ same => inside (Term.reassociates_iff.mpr (congrArg Term.expr same))
    · exact fun _ _ same => inside (Term.reassociates_iff.mpr (congrArg Term.stmt same))
    · exact fun _ _ same =>
        associated.mpr (Term.reassociates_iff.mpr (congrArg Term.routine same))
  exact inStep_step aligned associated inside matching

/-- So do statements that are no sequences. Sequences are left out, because they run their leaves,
and these are compared as lists. -/
theorem inStep_statement {s s' : Stmt} (single : ∀ first second, s ≠ .seq first second)
    (single' : ∀ first second, s' ≠ .seq first second) (same : s.rightNested = s'.rightNested) :
    d.correspondence.InStep d.correspondence.Values (Eval.statement run s)
      (Eval.statement run' s') := by
  have matching : Code.Matches (d.correspondence.stepwise.Exprs run run')
      (d.correspondence.stepwise.Stmts run run') d.routines (.stmt s) (.stmt s') := by
    apply Stmt.matches_of_rightNested _ _ single single' same
    · exact fun _ _ same => inside (Term.reassociates_iff.mpr (congrArg Term.expr same))
    · exact fun _ _ same =>
        associated.mpr (Term.reassociates_iff.mpr (congrArg Term.routine same))
  -- What a statement does itself does not depend on settings or a bound.
  have step : d.correspondence.InStep d.correspondence.Values
      (Eval.step .default 0 run (.stmt s)) (Eval.step .default 0 run' (.stmt s')) :=
    inStep_step aligned associated inside matching
  exact step

/-- Sequences of the same steps are in step if they run on one level, leaf by leaf. Their nestings
need not be alike. -/
theorem inStep_flatten {s s' : Stmt} (same : s.steps = s'.steps) :
    d.correspondence.InStep d.correspondence.Values (Eval.flatten run s)
      (Eval.flatten run' s') := by
  rw [Stmt.steps_eq, Stmt.steps_eq] at same
  have pairs : List.Forall₂ (fun leaf leaf' => leaf.rightNested = leaf'.rightNested) s.leaves
      s'.leaves := forall₂_of_map_eq (fun _ _ => id) same
  obtain ⟨sameLength, sameLeaves⟩ := List.forall₂_iff_zip.mp pairs
  rw [Eval.flatten_eq, Eval.flatten_eq]
  apply Correspondence.inStep_inSequence
  refine List.forall₂_iff_zip.mpr ⟨sameLength, fun {leaf leaf'} pair => ?_⟩
  obtain ⟨listed, listed'⟩ := List.of_mem_zip pair
  exact inStep_statement aligned associated inside
    (fun _ _ => Stmt.ne_seq_of_mem_leaves listed) (fun _ _ => Stmt.ne_seq_of_mem_leaves listed')
    (sameLeaves pair)

end InStep

/-- The routines of the two runs are the same up to association. Their names and parameters are
therefore equal. -/
def reassociation (arrays objects : Matching) (exact : Prop) : Displacement where
  arrays := arrays
  objects := objects
  sinks := Eq
  routines := Routine.Reassociates
  exact := exact
  signature := by
    intro routine routine' same
    obtain ⟨sameName, sameParams, _⟩ := Routine.reassociates_iff.mp same
    exact ⟨sameName, sameParams⟩

variable {arrays objects : Matching} {exact : Prop} {σ : Settings}

/-- The sinks of both runs are equal, so they take and refuse alike. -/
theorem reassociation_aligned : (reassociation arrays objects exact).Aligned := by
  rintro sink _ text rfl
  exact ⟨rfl, rfl⟩

/-- On one level, code that is the same up to association is in step. The induction is on the
bound. -/
theorem inStep_evalFlat (bound : Nat) {code code' : Code}
    (same : code.term.Reassociates code'.term) :
    (reassociation arrays objects exact).correspondence.InStep
      (reassociation arrays objects exact).correspondence.Values (evalFlat σ bound code)
      (evalFlat σ bound code') := by
  induction bound generalizing code code' with
  | zero => exact fun _ _ _ => .interrupted
  | succ bound inductionHypothesis =>
    have nested := Term.reassociates_iff.mp same
    cases code with
    | expr e =>
      cases code' with
      | expr e' =>
        exact inStep_expression reassociation_aligned .rfl inductionHypothesis
          (Term.expr.inj nested)
      | stmt s' => cases nested
    | stmt s =>
      cases code' with
      | expr e' => cases nested
      | stmt s' =>
        exact inStep_flatten reassociation_aligned .rfl inductionHypothesis
          (Stmt.rightNested_inj.mp (Term.stmt.inj nested))

/-- Runs of code that is the same up to association both diverge or both end, and then in
corresponding outcomes. -/
theorem both_diverge_or_both_end {code code' : Code} (same : code.term.Reassociates code'.term)
    {s s' : State} (states : (reassociation arrays objects exact).States s s') :
    (Diverges σ code s ∧ Diverges σ code' s') ∨
      ∃ outcome outcome', Ends σ code s outcome ∧ Ends σ code' s' outcome' ∧
        (reassociation arrays objects exact).correspondence.Together
          (reassociation arrays objects exact).correspondence.Values outcome outcome' := by
  have inStep (bound : Nat) := inStep_evalFlat (σ := σ) bound same s s' states
  by_cases stopped : ∀ bound, evalFlat σ bound code s = .interrupted
  · refine .inl ⟨diverges_iff_evalFlat.mpr stopped, diverges_iff_evalFlat.mpr fun bound => ?_⟩
    exact (inStep bound).interrupted_iff.mp (stopped bound)
  · obtain ⟨bound, ended⟩ := Classical.not_forall.mp stopped
    have ended' := mt (inStep bound).interrupted_iff.mpr ended
    exact .inr ⟨_, _, ends_iff_evalFlat.mpr ⟨ended, bound, rfl⟩,
      ends_iff_evalFlat.mpr ⟨ended', bound, rfl⟩, inStep bound⟩

end Displacement

/-- How sequences nest does not show. Take two programs that are the same up to association, and
states that are the same up to association of the routines in them. Then both programs diverge, or
both end: with values of the same type and text or with faults that say the same, and in states that
are again the same up to association, with the same output and at the same depth. Where the tables
of the two states are laid out alike, the faults are the same fault and the tables stay so.

A loop that walks along the right spine of sequences and runs what hangs off it to the left one
level deeper ends as plain evaluation ends. -/
theorem association_unobservable {σ : Settings} {arrays objects : Matching} {exact : Prop}
    {s s' : State} {p q : Stmt} (same : p.Reassociates q)
    (states : (Displacement.reassociation arrays objects exact).States s s') :
    ((Diverges σ (.stmt p) s ∧ Diverges σ (.stmt q) s') ∨
      (∃ value value' later later', Ends σ (.stmt p) s (.done value later) ∧
        Ends σ (.stmt q) s' (.done value' later') ∧ value.typeName = value'.typeName ∧
        later.heap.render value = later'.heap.render value' ∧
        (Displacement.reassociation arrays objects exact).States later later') ∨
      (∃ fault fault' later later', Ends σ (.stmt p) s (.failed fault later) ∧
        Ends σ (.stmt q) s' (.failed fault' later') ∧ fault.SaysTheSame fault' ∧
        (exact → fault = fault') ∧
        (Displacement.reassociation arrays objects exact).States later later')) ∧
    ∀ outcome, Ends σ (.stmt p) s outcome ↔
      outcome ≠ .interrupted ∧ ∃ bound, evalSpine σ bound (.stmt p) s = outcome := by
  refine ⟨?_, fun _ => ends_iff_evalSpine⟩
  have whole : (Code.stmt p).term.Reassociates (Code.stmt q).term := same
  rcases Displacement.both_diverge_or_both_end whole states with
    diverge | ⟨outcome, outcome', ends, ends', together⟩
  · exact .inl diverge
  · cases together with
    | done values later =>
      exact .inr (.inl ⟨_, _, _, _, ends, ends', Value.Corresponds.typeName values,
        Displacement.States.render_eq later values, later⟩)
    | failed faults later =>
      exact .inr (.inr ⟨_, _, _, _, ends, ends', faults.sameButHint.saysTheSame, faults.same,
        later⟩)
    | interrupted => exact absurd rfl ends.1

/-- A function is bound to bodies that nest in two ways, and so does the program that calls it. Two
arrays stand in one order in the one heap and in the other order in the other. -/
theorem association_unobservable_swapped_heap :
    let σ := Settings.default
    let crosswise : Matching :=
      ⟨2, 2, fun i j => i + j = 1, fun _ => by omega, fun _ _ => by omega⟩
    let same := Displacement.reassociation crosswise (.inOrder 0) True
    let put := Stmt.expr (.callSlot (.ref "a") "set" [.int 0, .int 5])
    let say := Stmt.expr (.printf "~" [.callSlot (.ref "a") "get" [.int 0]])
    let miss := Stmt.expr (.ref "b")
    let routine (body : Stmt) : Binding := .routine ⟨"f", [], body⟩
    let s := { State.initial σ .unlimited with
      globals := ((Table.empty 64).insert "a" (.var (.array ⟨0⟩))).insert "f"
        (routine (.seq (.seq put say) miss))
      heap := ⟨#[#[1], #[2, 3]], #[]⟩ }
    let s' := { State.initial σ .unlimited with
      globals := ((Table.empty 64).insert "a" (.var (.array ⟨1⟩))).insert "f"
        (routine (.seq put (.seq say miss)))
      heap := ⟨#[#[2, 3], #[1]], #[]⟩ }
    let p := Stmt.seq (.seq say say) (.expr (.call "f" []))
    let q := Stmt.seq say (.seq say (.expr (.call "f" [])))
    p.Reassociates q ∧ same.States s s' ∧
    ((Diverges σ (.stmt p) s ∧ Diverges σ (.stmt q) s') ∨
      (∃ value value' later later', Ends σ (.stmt p) s (.done value later) ∧
        Ends σ (.stmt q) s' (.done value' later') ∧ value.typeName = value'.typeName ∧
        later.heap.render value = later'.heap.render value' ∧ same.States later later') ∨
      (∃ fault fault' later later', Ends σ (.stmt p) s (.failed fault later) ∧
        Ends σ (.stmt q) s' (.failed fault' later') ∧ fault.SaysTheSame fault' ∧
        (True → fault = fault') ∧ same.States later later')) ∧
    ∀ outcome, Ends σ (.stmt p) s outcome ↔
      outcome ≠ .interrupted ∧ ∃ bound, evalSpine σ bound (.stmt p) s = outcome := by
  intro σ crosswise same put say miss routine s s' p q
  have programs : p.Reassociates q := .rotate _ _ _
  have bodies : Routine.Reassociates ⟨"f", [], .seq (.seq put say) miss⟩
      ⟨"f", [], .seq put (.seq say miss)⟩ := .routine "f" [] (.rotate _ _ _)
  have states : same.States s s' := by
    refine ⟨?_, .none, ⟨0, rfl, rfl⟩, ?_, ⟨0, rfl, rfl⟩, fun _ => ?_, rfl, rfl⟩
    · apply Displacement.Scopes.insert
      · apply Displacement.Scopes.insert
        · exact Displacement.scopes_empty fun _ => rfl
        · exact .var (.array (.old rfl))
      · exact .routine bodies
    · rintro ⟨i⟩ ⟨j⟩ (⟨crossed⟩ | made)
      · obtain ⟨rfl, rfl⟩ | ⟨rfl, rfl⟩ : i = 0 ∧ j = 1 ∨ i = 1 ∧ j = 0 := by
          change i + j = 1 at crossed
          omega
        · rfl
        · rfl
      · show (#[#[1], #[2, 3]] : Array Elements)[2 + made]? = (#[#[2, 3], #[1]])[2 + made]?
        rw [Array.getElem?_eq_none (Nat.le_add_right 2 made),
          Array.getElem?_eq_none (Nat.le_add_right 2 made)]
    · exact .none
  exact ⟨programs, states, association_unobservable programs states⟩

end SlotLang
