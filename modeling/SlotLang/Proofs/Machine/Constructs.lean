import SlotLang.Proofs.Machine.Bound

/-!
# How constructs end

A construct is given in terms of an evaluator for the code inside it. How it ends follows from how
its parts end, and the bounds within which they do play no role: an answer that one bound gives is
kept by every larger one, so a bound that is large enough for each of the parts is large enough for
the whole. This file says so for one action after another, for calls and for lists of expressions,
always in both directions. A construct that ends has parts that ended.
-/

namespace SlotLang

/-- An action in terms of an evaluator, which is how all that is evaluated is defined. -/
abbrev Construct (α : Type) : Type :=
  Evaluator → Action α

namespace Construct

variable {α β : Type} {σ : Settings} {s : State}

/-- How a construct ends, with a bound that is large enough for it. This is to a construct what
`Ends` is to code. -/
def Settles (σ : Settings) (construct : Construct α) (s : State) (outcome : Outcome α) : Prop :=
  outcome ≠ .interrupted ∧ ∃ bound, construct (eval σ bound) s = outcome

/-- An answer within a bound is the answer within every larger bound. Without this, two parts with
different bounds could not be put together. -/
def Steady (σ : Settings) (construct : Construct α) : Prop :=
  ∀ (bound more : Nat) (s : State), construct (eval σ bound) s ≠ .interrupted →
    construct (eval σ (bound + more)) s = construct (eval σ bound) s

/-! ## Steady constructs -/

/-- An action that evaluates no code does not depend on a bound. -/
theorem steady_const (action : Action α) : Steady σ fun _ => action :=
  fun _ _ _ _ => rfl

/-- The evaluation of code is steady: a larger bound changes no answer. -/
theorem steady_run (σ : Settings) (code : Code) : Steady σ fun run => run code :=
  fun bound more _ ended => eval_eq_of_le (Nat.le_add_right bound more) ended

/-- Two steady constructs in sequence are steady, for if they come to an answer then each of them
does. -/
theorem steady_bind {first : Construct α} {next : α → Construct β} (start : Steady σ first)
    (later : ∀ value, Steady σ (next value)) :
    Steady σ fun run => first run >>= fun value => next value run := by
  intro bound more s ended
  have same := start bound more s
  change Action.bind _ _ s ≠ _ at ended
  show Action.bind _ _ s = Action.bind _ _ s
  unfold Action.bind at ended ⊢
  generalize first (eval σ bound) s = outcome at ended same ⊢
  cases outcome with
  | done value t =>
    rw [same (by simp)]
    exact later value bound more t ended
  | failed fault t => rw [same (by simp)]
  | interrupted => exact absurd rfl ended

/-! ## Rules -/

/-- Code ends as the construct at its root does. The construct is run with a bound smaller by one,
which makes no difference to how it ends. -/
theorem ends_iff_settles (construct : Construct Value) {code : Code} {outcome : Outcome Value}
    (root : ∀ bound run, Eval.step σ bound run code = construct run) :
    Ends σ code s outcome ↔ Settles σ construct s outcome := by
  constructor
  · rintro ⟨uninterrupted, bound, ended⟩
    cases bound with
    | zero => exact absurd ended.symm uninterrupted
    | succ bound =>
      rw [eval_succ, root] at ended
      exact ⟨uninterrupted, bound, ended⟩
  · rintro ⟨uninterrupted, bound, ended⟩
    refine ⟨uninterrupted, bound + 1, ?_⟩
    rw [eval_succ, root, ended]

/-- What ends in one way whatever evaluates the code inside it ends in this way. -/
theorem settles_same {construct : Construct α} {answer outcome : Outcome α}
    (same : ∀ run, construct run s = answer) (uninterrupted : answer ≠ .interrupted) :
    Settles σ construct s outcome ↔ outcome = answer := by
  simp only [Settles, same, exists_const]
  constructor
  · rintro ⟨-, rfl⟩
    rfl
  · rintro rfl
    exact ⟨uninterrupted, rfl⟩

/-- What ends in a value at once ends so. -/
theorem settles_done {construct : Construct α} {value : α} {t : State} {outcome : Outcome α}
    (done : ∀ run, construct run s = .done value t) :
    Settles σ construct s outcome ↔ outcome = .done value t :=
  settles_same done (by simp)

/-- And so does what fails at once. -/
theorem settles_failed {construct : Construct α} {fault : Fault} {t : State} {outcome : Outcome α}
    (failed : ∀ run, construct run s = .failed fault t) :
    Settles σ construct s outcome ↔ outcome = .failed fault t :=
  settles_same failed (by simp)

/-- In particular, what yields a value without doing anything. -/
theorem settles_pure {value : α} {outcome : Outcome α} :
    Settles σ (fun _ => pure value) s outcome ↔ outcome = .done value s :=
  settles_done fun _ => rfl

/-- One action after another: the first ends in a value and the second goes on from there, or the
first fails and that is all. -/
theorem settles_bind {first : Construct α} {next : α → Construct β} {outcome : Outcome β}
    (start : Steady σ first) (later : ∀ value, Steady σ (next value)) :
    Settles σ (fun run => first run >>= fun value => next value run) s outcome ↔
      (∃ value t, Settles σ first s (.done value t) ∧ Settles σ (next value) t outcome) ∨
      ∃ fault t, Settles σ first s (.failed fault t) ∧ outcome = .failed fault t := by
  constructor
  · rintro ⟨uninterrupted, bound, ended⟩
    change Action.bind _ _ s = _ at ended
    unfold Action.bind at ended
    cases begun : first (eval σ bound) s with
    | done value t =>
      rw [begun] at ended
      exact .inl ⟨value, t, ⟨by simp, bound, begun⟩, uninterrupted, bound, ended⟩
    | failed fault t =>
      rw [begun] at ended
      exact .inr ⟨fault, t, ⟨by simp, bound, begun⟩, ended.symm⟩
    | interrupted =>
      rw [begun] at ended
      exact absurd ended.symm uninterrupted
  · rintro (⟨value, t, ⟨-, bound, begun⟩, uninterrupted, more, ended⟩ |
      ⟨fault, t, ⟨-, bound, begun⟩, rfl⟩)
    · -- Either bound may be the larger one; their sum is enough for both parts.
      refine ⟨uninterrupted, bound + more, ?_⟩
      have begunStill := start bound more s (by simp [begun])
      have endedStill := later value more bound t (by simpa [ended] using uninterrupted)
      show Action.bind _ _ s = _
      rw [Action.bind, begunStill, begun]
      rw [Nat.add_comm, ended] at endedStill
      exact endedStill
    · refine ⟨by simp, bound, ?_⟩
      show Action.bind _ _ s = _
      rw [Action.bind, begun]

/-- Constructs that do the same from here on end in the same way. -/
theorem settles_congr {construct construct' : Construct α} {t : State} {outcome : Outcome α}
    (same : ∀ run, construct run s = construct' run t) :
    Settles σ construct s outcome ↔ Settles σ construct' t outcome := by
  simp only [Settles, same]

/-- What comes after an action that evaluates nothing and ends in a value. -/
theorem settles_const_bind {action : Action α} {next : α → Construct β} {value : α} {t : State}
    {outcome : Outcome β} (done : action s = .done value t) :
    Settles σ (fun run => action >>= fun value => next value run) s outcome ↔
      Settles σ (next value) t outcome := by
  apply settles_congr
  intro run
  show Action.bind _ _ s = _
  rw [Action.bind, done]

/-- Nothing comes after an action that fails. -/
theorem settles_const_bind_failed {action : Action α} {next : α → Construct β} {fault : Fault}
    {t : State} {outcome : Outcome β} (failed : action s = .failed fault t) :
    Settles σ (fun run => action >>= fun value => next value run) s outcome ↔
      outcome = .failed fault t := by
  apply settles_failed
  intro run
  show Action.bind _ _ s = _
  rw [Action.bind, failed]

/-- What comes after a part that ended in a value may end without evaluating anything. -/
theorem settles_bind_of_done {first : Construct α} {next : α → Construct β} {value : α} {t : State}
    {outcome : Outcome β} (done : Settles σ first s (.done value t))
    (ends : ∀ run, next value run t = outcome) (uninterrupted : outcome ≠ .interrupted) :
    Settles σ (fun run => first run >>= fun value => next value run) s outcome := by
  obtain ⟨-, bound, begun⟩ := done
  refine ⟨uninterrupted, bound, ?_⟩
  show Action.bind _ _ s = _
  rw [Action.bind, begun]
  exact ends _

/-- What comes after code that ended in a value goes on from there. It has to be steady, as the two
may need different bounds. -/
theorem settles_after {code : Code} {value : Value} {t : State} {next : Value → Construct β}
    {outcome : Outcome β} (ended : Ends σ code s (.done value t)) (later : Steady σ (next value)) :
    Settles σ (fun run => run code >>= fun value => next value run) s outcome ↔
      Settles σ (next value) t outcome := by
  constructor
  · rintro ⟨uninterrupted, bound, settled⟩
    change Action.bind _ _ s = _ at settled
    unfold Action.bind at settled
    rcases ended.eval_eq bound with interrupted | done
    · rw [interrupted] at settled
      exact absurd settled.symm uninterrupted
    · rw [done] at settled
      exact ⟨uninterrupted, bound, settled⟩
  · rintro ⟨uninterrupted, bound, settled⟩
    obtain ⟨-, more, done⟩ := ended
    refine ⟨uninterrupted, bound + more, ?_⟩
    have doneStill : eval σ (bound + more) code s = .done value t :=
      (eval_eq_of_le (Nat.le_add_left more bound) (by simp [done])).trans done
    show Action.bind _ _ s = _
    rw [Action.bind, doneStill]
    exact (later bound more t (by simpa [settled] using uninterrupted)).trans settled

/-! ## Lists of expressions -/

/-- Evaluate expressions from left to right. Each value must be accepted before the next expression
is evaluated. -/
def each (accept : Value → Except Fault α) : List Expr → Construct (List α)
  | [] => fun _ => pure []
  | e :: rest => fun run => do
    let value ← run (.expr e)
    let item ← Action.ofExcept (accept value)
    let items ← each accept rest run
    pure (item :: items)

/-- Where every value is accepted, evaluating a list is evaluating its head and then its tail. -/
theorem each_ok_cons (e : Expr) (rest : List Expr) (run : Evaluator) :
    each .ok (e :: rest) run =
      run (.expr e) >>= fun value => each .ok rest run >>= fun values => pure (value :: values) :=
  rfl

/-- A list of expressions that are evaluated in order is steady, by induction over the list. -/
theorem steady_each (σ : Settings) (accept : Value → Except Fault α) (exprs : List Expr) :
    Steady σ (each accept exprs) := by
  induction exprs with
  | nil => exact steady_const _
  | cons e rest inductionHypothesis =>
    apply steady_bind (steady_run σ (.expr e))
    intro value
    apply steady_bind (steady_const _)
    intro item
    exact steady_bind inductionHypothesis fun items => steady_const _

end Construct

/-- How the evaluation of expressions from left to right ends. Each is evaluated once, in the state
that the one before it left, and the first that fails or whose value is not accepted ends it. -/
inductive InOrder (σ : Settings) {α : Type} (accept : Value → Except Fault α) :
    List Expr → State → Outcome (List α) → Prop where
  /-- No expression is left. -/
  | nil (s : State) : InOrder σ accept [] s (.done [] s)
  /-- The first expression fails. -/
  | failed {e : Expr} {rest : List Expr} {fault : Fault} {s t : State}
      (ended : Ends σ (.expr e) s (.failed fault t)) :
      InOrder σ accept (e :: rest) s (.failed fault t)
  /-- Its value is not accepted. -/
  | refused {e : Expr} {rest : List Expr} {value : Value} {fault : Fault} {s t : State}
      (ended : Ends σ (.expr e) s (.done value t)) (refused : accept value = .error fault) :
      InOrder σ accept (e :: rest) s (.failed fault t)
  /-- A later expression fails or is not accepted. -/
  | later {e : Expr} {rest : List Expr} {value : Value} {item : α} {fault : Fault} {s t u : State}
      (ended : Ends σ (.expr e) s (.done value t)) (accepted : accept value = .ok item)
      (others : InOrder σ accept rest t (.failed fault u)) :
      InOrder σ accept (e :: rest) s (.failed fault u)
  /-- All are evaluated and accepted. -/
  | cons {e : Expr} {rest : List Expr} {value : Value} {item : α} {items : List α} {s t u : State}
      (ended : Ends σ (.expr e) s (.done value t)) (accepted : accept value = .ok item)
      (others : InOrder σ accept rest t (.done items u)) :
      InOrder σ accept (e :: rest) s (.done (item :: items) u)

/-- There are as many values as expressions. -/
theorem InOrder.length_eq {σ : Settings} {α : Type} {accept : Value → Except Fault α}
    {exprs : List Expr} {items : List α} {s u : State}
    (ordered : InOrder σ accept exprs s (.done items u)) : items.length = exprs.length := by
  induction exprs generalizing items s with
  | nil =>
    cases ordered
    rfl
  | cons e rest inductionHypothesis =>
    cases ordered with
    | cons _ _ others => exact congrArg (· + 1) (inductionHypothesis others)

namespace Construct

variable {α β : Type} {σ : Settings} {s : State}

/-- What goes on with a value that has to be accepted first. -/
theorem settles_accept {answer : Except Fault α} {next : α → Construct β} {outcome : Outcome β} :
    Settles σ (fun run => Action.ofExcept answer >>= fun item => next item run) s outcome ↔
      (∃ fault, answer = .error fault ∧ outcome = .failed fault s) ∨
      ∃ item, answer = .ok item ∧ Settles σ (next item) s outcome := by
  cases answer with
  | ok item =>
    have accepted : Action.ofExcept (.ok item) s = .done item s := rfl
    rw [settles_const_bind accepted]
    simp
  | error fault =>
    have refused : (Action.ofExcept (.error fault) : Action α) s = .failed fault s := rfl
    rw [settles_const_bind_failed refused]
    simp

/-- Evaluating expressions one after the other ends as `InOrder` says. By induction over the
expressions, in both directions. -/
theorem settles_each {accept : Value → Except Fault α} {exprs : List Expr}
    {outcome : Outcome (List α)} :
    Settles σ (each accept exprs) s outcome ↔ InOrder σ accept exprs s outcome := by
  induction exprs generalizing s outcome with
  | nil =>
    rw [each, settles_pure]
    constructor
    · rintro rfl
      exact .nil s
    · rintro ⟨⟩
      rfl
  | cons e rest inductionHypothesis =>
    have steadyLater (item : α) : Steady σ fun run =>
        each accept rest run >>= fun items => pure (item :: items) :=
      steady_bind (steady_each σ accept rest) fun _ => steady_const _
    have steadyItem (value : Value) : Steady σ fun run => Action.ofExcept (accept value) >>=
        fun item => each accept rest run >>= fun items => pure (item :: items) :=
      steady_bind (steady_const _) steadyLater
    have collected {item : α} {t : State} : Settles σ (fun run =>
        each accept rest run >>= fun items => pure (item :: items)) t outcome ↔
        (∃ items u, InOrder σ accept rest t (.done items u) ∧
          outcome = .done (item :: items) u) ∨
        ∃ fault u, InOrder σ accept rest t (.failed fault u) ∧ outcome = .failed fault u := by
      rw [settles_bind (steady_each σ accept rest) fun _ => steady_const _]
      simp only [inductionHypothesis, settles_pure]
    rw [each, settles_bind (steady_run σ (.expr e)) steadyItem]
    simp only [settles_accept, collected]
    constructor
    · rintro (⟨value, t, ended, ⟨fault, refused, rfl⟩ | ⟨item, accepted, ⟨items, u, others, rfl⟩ |
        ⟨fault, u, others, rfl⟩⟩⟩ | ⟨fault, t, ended, rfl⟩)
      · exact .refused ended refused
      · exact .cons ended accepted others
      · exact .later ended accepted others
      · exact .failed ended
    · intro ordered
      cases ordered with
      | failed ended => exact .inr ⟨_, _, ended, rfl⟩
      | refused ended refused => exact .inl ⟨_, _, ended, .inl ⟨_, refused, rfl⟩⟩
      | later ended accepted others =>
        exact .inl ⟨_, _, ended, .inr ⟨_, accepted, .inr ⟨_, _, others, rfl⟩⟩⟩
      | cons ended accepted others =>
        exact .inl ⟨_, _, ended, .inr ⟨_, accepted, .inl ⟨_, _, others, rfl⟩⟩⟩

/-- What goes on after expressions that all have values. How it ends may be given for whatever way
in which their evaluation ends, if nothing comes after a fault. -/
theorem settles_after_each {accept : Value → Except Fault α} {exprs : List Expr}
    {next : List α → Construct β} {outcome : Outcome β}
    {Rest : Outcome (List α) → Outcome β → Prop} (later : ∀ items, Steady σ (next items))
    (goesOn : ∀ items u, items.length = exprs.length →
      (Settles σ (next items) u outcome ↔ Rest (.done items u) outcome))
    (stops : ∀ fault u, outcome = .failed fault u ↔ Rest (.failed fault u) outcome) :
    Settles σ (fun run => each accept exprs run >>= fun items => next items run) s outcome ↔
      ∃ evaluated, InOrder σ accept exprs s evaluated ∧ Rest evaluated outcome := by
  rw [settles_bind (steady_each σ accept exprs) later]
  simp only [settles_each]
  constructor
  · rintro (⟨items, u, ordered, settled⟩ | ⟨fault, u, ordered, failed⟩)
    · exact ⟨_, ordered, (goesOn items u ordered.length_eq).mp settled⟩
    · exact ⟨_, ordered, (stops fault u).mp failed⟩
  · rintro ⟨evaluated, ordered, rest⟩
    cases evaluated with
    | done items u => exact .inl ⟨items, u, ordered, (goesOn items u ordered.length_eq).mpr rest⟩
    | failed fault u => exact .inr ⟨fault, u, ordered, (stops fault u).mpr rest⟩
    | interrupted => cases ordered

end Construct

end SlotLang
