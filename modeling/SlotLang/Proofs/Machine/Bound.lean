import SlotLang.Proofs.Machine.Simulation

/-!
# The bound only interrupts

The bound of an evaluation decides whether there is an answer and never which. Code therefore either
ends, in one outcome that every sufficient bound gives, or diverges, which is to be interrupted
whatever the bound.
-/

namespace SlotLang

/-- How a run of code ends, with a bound that is large enough for it. That it was interrupted is no
end. -/
def Ends (σ : Settings) (code : Code) (s : State) (outcome : Outcome Value) : Prop :=
  outcome ≠ .interrupted ∧ ∃ bound, eval σ bound code s = outcome

/-- No bound is large enough for the run. A run that would go on for ever is one of these, and there
are no others. -/
def Diverges (σ : Settings) (code : Code) (s : State) : Prop :=
  ∀ bound, eval σ bound code s = .interrupted

namespace Correspondence

/-- Both runs hold the same. -/
def identical : Correspondence where
  arrays := Eq
  objects := Eq
  routines := Eq
  scopes := Eq
  faults := Eq
  states := Eq

/-- Identical values are equal. -/
theorem identical_values {v v' : Value} : identical.Values v v' ↔ v = v' :=
  Value.Corresponds.iff_eq

/-- What follows itself is the same, unless it was interrupted. An interrupted run says nothing of
the other. -/
theorem identical_outcomes {outcome outcome' : Outcome Value}
    (same : identical.Outcomes identical.Values outcome outcome') :
    outcome = .interrupted ∨ outcome = outcome' := by
  cases same with
  | done same later =>
    cases later
    cases identical_values.mp same
    exact .inr rfl
  | failed same later =>
    cases later
    cases same
    exact .inr rfl
  | interrupted outcome => exact .inl rfl

/-- Two actions of which each follows the other are one. -/
theorem eq_of_identical_follows {action action' : Action Value}
    (follows : identical.Follows identical.Values action action')
    (back : identical.Follows identical.Values action' action) : action = action' := by
  funext s
  rcases identical_outcomes (follows s s rfl) with interrupted | same
  · rcases identical_outcomes (back s s rfl) with interrupted' | same
    · rw [interrupted, interrupted']
    · exact same.symm
  · exact same

/-- An answer is identical to itself. -/
theorem identical_answers {α : Type} {V : α → α → Prop} (refl : ∀ value, V value value)
    (answer : Except Fault α) : identical.Answers V answer answer := by
  cases answer with
  | ok value => exact .ok (refl value)
  | error fault => exact .error rfl

/-- An action follows itself, whatever it does. -/
theorem identical_follows {α : Type} {V : α → α → Prop} (refl : ∀ value, V value value)
    (action : Action α) : identical.Follows V action action := by
  rintro s _ rfl
  cases action s with
  | done value later => exact .done (refl value) rfl
  | failed fault later => exact .failed rfl rfl
  | interrupted => exact .interrupted _

/-- A body that follows itself but for interruptions makes a call that does. -/
theorem identical_enter (σ : Settings) (scope : Scope) {body body' : Action Value}
    (bodies : identical.Follows identical.Values body body') :
    identical.Follows identical.Values (Eval.enter σ scope body) (Eval.enter σ scope body') := by
  refine follows_call rfl bodies (fun _ => rfl) (congrArg State.depth) ?_ ?_
  · rintro s _ rfl
    rfl
  · rintro s _ u _ rfl rfl
    rfl

/-- And every operation on the state does what it does. So the general result on correspondences
says something of one piece of code under two bounds. -/
theorem identical_respected (σ : Settings) : identical.Respected σ σ := by
  have reflexive (value : Value) : identical.Values value value := identical_values.mpr rfl
  refine
    { sameName := congrArg Routine.name
      sameParams := congrArg Routine.params
      fault := fun _ => rfl
      print := fun text => identical_follows (fun _ => rfl) (Eval.print text)
      addArray := ?_, applyElements := ?_, freshLocals := rfl, freshObject := rfl
      bindValue := ?_, bindRoutine := ?_, slots := ?_, addObject := ?_, readSlot := ?_
      putSlot := ?_, method := ?_, function := ?_, readVariable := ?_, assign := ?_
      declare := ?_, bindGlobal := ?_, enter := ?_ }
  · rintro s _ elements rfl
    exact ⟨rfl, rfl⟩
  · rintro id _ op operands rfl
    exact identical_follows reflexive _
  · rintro scope _ value value' name rfl same
    cases identical_values.mp same
    rfl
  · rintro scope _ routine _ name rfl rfl
    rfl
  · rintro id _ s _ rfl rfl
    rfl
  · rintro scope _ s _ rfl rfl
    exact ⟨rfl, rfl⟩
  · rintro id _ s _ name rfl rfl
    exact identical_answers reflexive _
  · rintro id _ value value' s _ name rfl same rfl
    cases identical_values.mp same
    rfl
  · rintro id _ s _ name rfl rfl
    exact identical_answers (fun _ => rfl) _
  · rintro s _ name rfl
    exact identical_answers (fun _ => rfl) _
  · rintro s _ name rfl
    exact identical_answers reflexive _
  · rintro value value' s _ name same rfl
    cases identical_values.mp same
    exact identical_answers (fun _ => rfl) _
  · rintro value value' s _ name same rfl
    cases identical_values.mp same
    rfl
  · rintro s _ routine _ name rfl rfl
    rfl
  · rintro scope _ body body' rfl bodies
    exact identical_enter σ scope bodies

end Correspondence

/-- An answer within a bound is the answer within every larger bound. So the bound decides whether
there is an answer and never which. -/
theorem eval_eq_of_le {σ : Settings} {bound bound' : Nat} (enough : bound ≤ bound') {code : Code}
    {s : State} (ended : eval σ bound code s ≠ .interrupted) :
    eval σ bound' code s = eval σ bound code s := by
  have follows := Correspondence.follows_eval (Correspondence.identical_respected σ) .rfl enough
    code s s rfl
  rcases Correspondence.identical_outcomes follows with interrupted | same
  · exact absurd interrupted ended
  · exact same.symm

/-- Within any bound a run is interrupted or ends as it does with a bound that is large enough. -/
theorem Ends.eval_eq {σ : Settings} {code : Code} {s : State} {outcome : Outcome Value}
    (ends : Ends σ code s outcome) (bound : Nat) :
    eval σ bound code s = .interrupted ∨ eval σ bound code s = outcome := by
  obtain ⟨uninterrupted, enough, rfl⟩ := ends
  by_cases interrupted : eval σ bound code s = .interrupted
  · exact .inl interrupted
  · rcases Nat.le_total enough bound with more | fewer
    · exact .inr (eval_eq_of_le more uninterrupted)
    · exact .inr (eval_eq_of_le fewer interrupted).symm

/-- A run ends in one way: of two bounds the larger one decides. -/
theorem Ends.unique {σ : Settings} {code : Code} {s : State} {outcome outcome' : Outcome Value}
    (ends : Ends σ code s outcome) (ends' : Ends σ code s outcome') : outcome = outcome' := by
  obtain ⟨uninterrupted, bound, rfl⟩ := ends
  rcases ends'.eval_eq bound with interrupted | same
  · exact absurd interrupted uninterrupted
  · exact same

/-- Code diverges or ends, and never both. -/
theorem diverges_or_ends (σ : Settings) (code : Code) (s : State) :
    Diverges σ code s ∨ ∃ outcome, Ends σ code s outcome := by
  by_cases diverges : Diverges σ code s
  · exact .inl diverges
  · obtain ⟨bound, ended⟩ := Classical.not_forall.mp diverges
    exact .inr ⟨eval σ bound code s, ended, bound, rfl⟩

/-- Two runs that follow each other, in both directions, both diverge or both end, and then in
corresponding outcomes. -/
theorem Correspondence.both_diverge_or_both_end {R R' : Correspondence} {σ σ' : Settings}
    {code : Code} {s s' : State}
    (follows : ∀ bound, R.Outcomes R.Values (eval σ bound code s) (eval σ' bound code s'))
    (back : ∀ bound, R'.Outcomes R'.Values (eval σ' bound code s') (eval σ bound code s)) :
    (Diverges σ code s ∧ Diverges σ' code s') ∨
      ∃ outcome outcome', Ends σ code s outcome ∧ Ends σ' code s' outcome' ∧
        R.Outcomes R.Values outcome outcome' := by
  rcases diverges_or_ends σ code s with diverges | ⟨_, uninterrupted, bound, rfl⟩
  · refine .inl ⟨diverges, fun bound => ?_⟩
    have matched := back bound
    rw [diverges bound] at matched
    generalize eval σ' bound code s' = outcome at matched ⊢
    cases matched
    rfl
  · have matched := follows bound
    refine .inr ⟨_, eval σ' bound code s', ⟨uninterrupted, bound, rfl⟩, ⟨?_, bound, rfl⟩, matched⟩
    generalize eval σ bound code s = outcome, eval σ' bound code s' = outcome' at *
    cases matched with
    | done | failed => simp
    | interrupted => exact absurd rfl uninterrupted

end SlotLang
