import SlotLang.Proofs.Machine.Bound
import SlotLang.Proofs.Machine.Evolution

/-!
# Local scopes are neither captured nor passed on

Code sees the local scope only through the variables that it names itself. A routine has no access
to the local scope of its caller, nor to that of the code that declared it, and does not change
them. So two runs from states that differ only in their local scopes, and there only in variables
that the code does not name, do the same. What may differ is the name that a failed look-up offers,
since it is chosen among all the names in sight.
-/

namespace SlotLang

/-! ## Faults up to the name they offer -/

namespace Fault

/-- The name that a failed look-up offers, if it offers one. -/
def hint? : Fault → Option String
  | undefinedVariable _ suggestion | undefinedSlot _ suggestion | undefinedFunction _ suggestion
  | undefinedMethod _ suggestion => suggestion
  | _ => none

/-- Two faults of one kind that say the same but for the hint that each of them may end in. The
names offered need not be equally near. -/
def SameButSuggestion (fault fault' : Fault) : Prop :=
  fault.kind = fault'.kind ∧
    ∃ words, fault.message = words ++ Names.hint fault.hint? ∧
      fault'.message = words ++ Names.hint fault'.hint?

/-- A fault says the same as itself, with whatever hint it ends in, or with none. -/
theorem sameButSuggestion_self (fault : Fault) : fault.SameButSuggestion fault := by
  refine ⟨rfl, ?_⟩
  cases fault with
  | undefinedVariable | undefinedSlot | undefinedFunction | undefinedMethod =>
    exact ⟨_, rfl, rfl⟩
  | wrongType | notVariable | notFunction | arityMismatch | unknownOperator | nullReference
  | indexOutOfBounds | divisionByZero | stackOverflow | output =>
    exact ⟨_, (String.append_empty).symm, (String.append_empty).symm⟩

/-- Where the same variable is missing, faults differ in their hints at most. -/
theorem sameButSuggestion_variable (name : String) (hint hint' : Option String) :
    (undefinedVariable name hint).SameButSuggestion (undefinedVariable name hint') :=
  ⟨rfl, _, rfl, rfl⟩

end Fault

/-- The outcome, with another local scope. -/
def Outcome.withLocals {α : Type} (locals : Option Scope) : Outcome α → Outcome α
  | .done value s => .done value { s with locals }
  | .failed fault s => .failed fault { s with locals }
  | .interrupted => .interrupted

namespace LocalScope

variable {names : String → Prop} {α β γ δ : Type}

/-! ## Pairs of local scopes -/

/-- What becomes of two local scopes. The scopes after agree on the names, and each of them binds
all other names as it did before. -/
structure Kept (names : String → Prop) (before before' after after' : Scope) : Prop where
  /-- The two scopes agree on the names. -/
  agree : ∀ name, names name → after.get? name = after'.get? name
  /-- On other names the left one is as it was. -/
  left : ∀ name, ¬names name → after.get? name = before.get? name
  /-- So is the right one. -/
  right : ∀ name, ¬names name → after'.get? name = before'.get? name

/-- Scopes that agree on the names may stay as they are. -/
theorem Kept.refl {t t' : Scope} (agree : ∀ name, names name → t.get? name = t'.get? name) :
    Kept names t t' t t' :=
  ⟨agree, fun _ _ => rfl, fun _ _ => rfl⟩

/-- What is kept in two stages is kept: they agree after the second, and of the other names neither
stage changes any. -/
theorem Kept.trans {t t' u u' v v' : Scope} (first : Kept names t t' u u')
    (second : Kept names u u' v v') : Kept names t t' v v' where
  agree := second.agree
  left := fun name other => (second.left name other).trans (first.left name other)
  right := fun name other => (second.right name other).trans (first.right name other)

/-- Binding one of the names to the same in both scopes. Other names stay as they are in each. -/
theorem Kept.insert {t t' : Scope} (agree : ∀ name, names name → t.get? name = t'.get? name)
    {name : String} (admitted : names name) (binding : Binding) :
    Kept names t t' (t.insert name binding) (t'.insert name binding) where
  agree := by
    intro tested inside
    rw [Table.get?_insert, Table.get?_insert, agree tested inside]
  left := by
    intro tested outside
    have different : tested ≠ name := fun same => outside (same ▸ admitted)
    rw [Table.get?_insert, if_neg different]
  right := by
    intro tested outside
    have different : tested ≠ name := fun same => outside (same ▸ admitted)
    rw [Table.get?_insert, if_neg different]

/-- Two outcomes of runs that began with the local scopes `t` and `t'`. But for the local scopes
they end in the same state. -/
inductive Outcomes (names : String → Prop) (V : α → β → Prop) (t t' : Scope) :
    Outcome α → Outcome β → Prop where
  /-- Related values, in states that differ in their local scopes only. -/
  | done {value : α} {value' : β} (same : V value value') (s : State) {u u' : Scope}
      (kept : Kept names t t' u u') :
      Outcomes names V t t' (.done value { s with locals := some u })
        (.done value' { s with locals := some u' })
  /-- Faults that say the same but for a suggestion, in such states. -/
  | failed {fault fault' : Fault} (same : fault.SameButSuggestion fault') (s : State)
      {u u' : Scope} (kept : Kept names t t' u u') :
      Outcomes names V t t' (.failed fault { s with locals := some u })
        (.failed fault' { s with locals := some u' })
  /-- Both runs were interrupted. -/
  | interrupted : Outcomes names V t t' .interrupted .interrupted

/-- What comes after a first change of the two scopes is an outcome of the runs as a whole: what was
kept in two stages is kept. -/
theorem Outcomes.after {V : α → β → Prop} {t t' u u' : Scope} (kept : Kept names t t' u u')
    {outcome : Outcome α} {outcome' : Outcome β} (later : Outcomes names V u u' outcome outcome') :
    Outcomes names V t t' outcome outcome' := by
  cases later with
  | done same s next => exact .done same s (kept.trans next)
  | failed same s next => exact .failed same s (kept.trans next)
  | interrupted => exact .interrupted

/-- Two actions that do the same from states that differ only in their local scopes, and there not
in the names. -/
def Independent (names : String → Prop) (V : α → β → Prop) (left : Action α)
    (right : Action β) : Prop :=
  ∀ (s : State) (t t' : Scope), (∀ name, names name → t.get? name = t'.get? name) →
    Outcomes names V t t' (left { s with locals := some t }) (right { s with locals := some t' })

/-- Actions that do the same on both sides may be put one after the other. The second begins with
scopes that still agree on the names. -/
theorem independent_bind {V : α → β → Prop} {W : γ → δ → Prop} {first : Action α}
    {first' : Action β} {next : α → Action γ} {next' : β → Action δ}
    (firsts : Independent names V first first')
    (nexts : ∀ value value', V value value' → Independent names W (next value) (next' value')) :
    Independent names W (first >>= next) (first' >>= next') := by
  intro s t t' agree
  have ends := firsts s t t' agree
  show Outcomes names W t t' (Action.bind first next _) (Action.bind first' next' _)
  unfold Action.bind
  generalize first _ = ended, first' _ = ended' at ends ⊢
  cases ends with
  | done same s kept => exact .after kept (nexts _ _ same s _ _ kept.agree)
  | failed same s kept => exact .failed same s kept
  | interrupted => exact .interrupted

/-! ## Actions that do not see the local scope -/

/-- The local scope makes no difference to the action and is not changed by it. Most operations are
of this kind. -/
def Blind (action : Action α) : Prop :=
  ∀ s locals, action { s with locals } = (action s).withLocals locals

/-- An action that does not touch the local scope does the same whatever that is, and leaves it as
it is. -/
theorem independent_of_blind {V : α → α → Prop} (refl : ∀ value, V value value)
    {action : Action α} (blind : Blind action) : Independent names V action action := by
  intro s t t' agree
  rw [blind s (some t), blind s (some t')]
  cases action s with
  | done value later => exact .done (refl value) later (.refl agree)
  | failed fault later => exact .failed fault.sameButSuggestion_self later (.refl agree)
  | interrupted => exact .interrupted

/-- A look-up elsewhere than in the local scope. -/
theorem blind_lookup {find : State → Except Fault α}
    (elsewhere : ∀ (s : State) locals, find { s with locals } = find s) :
    Blind fun s => Action.ofExcept (find s) s := by
  intro s locals
  dsimp only
  rw [elsewhere]
  cases find s <;> rfl

/-- A change elsewhere than in the local scope. -/
theorem blind_change {change : State → State}
    (elsewhere : ∀ (s : State) locals, change { s with locals } = { change s with locals }) :
    Blind (Action.change change) := by
  intro s locals
  show Outcome.done () (change { s with locals }) = _
  rw [elsewhere]
  rfl

/-- Printing does not touch the local scope. -/
theorem blind_print (text : String) : Blind (Eval.print text) := by
  intro s locals
  unfold Eval.print
  dsimp only
  generalize s.sink.write text = written
  obtain ⟨refused, sink⟩ := written
  cases refused <;> rfl

/-- Nor does an operator of an array. -/
theorem blind_applyElements (id : ArrayId) (op : ArrayOp) (operands : List Int64) :
    Blind (Eval.applyElements id op operands) := by
  intro s locals
  unfold Eval.applyElements
  dsimp only
  cases op.value (s.heap.elements id) operands <;> rfl

/-- A call does not see the local scope of the caller and leaves it as it was, whatever the body
does. -/
theorem blind_enter (σ : Settings) (scope : Scope) (body : Action Value) :
    Blind (Eval.enter σ scope body) := by
  intro s locals
  by_cases within : s.depth < σ.maxCallDepth
  · rw [Eval.enter_of_within (s := { s with locals }) within, Eval.enter_of_within within]
    cases body { s with locals := some scope, depth := s.depth + 1 } <;> rfl
  · have deep : σ.maxCallDepth ≤ s.depth := Nat.le_of_not_lt within
    rw [Eval.enter_of_deep (s := { s with locals }) deep, Eval.enter_of_deep deep]
    rfl

/-! ## Variables -/

/-- Reading a variable looks into the local scope, at a name on which both agree. If it is found in
neither scope then the faults may offer different names, because all names in sight are considered
for these. -/
theorem independent_readVariable {name : String} (admitted : names name) {V : Value → Value → Prop}
    (refl : ∀ value, V value value) :
    Independent names V (Eval.readVariable name) (Eval.readVariable name) := by
  intro s t t' agree
  have same : State.lookup { s with locals := some t } name =
      State.lookup { s with locals := some t' } name := by
    simp only [State.lookup, Option.bind_some, agree name admitted]
  unfold Eval.readVariable State.readVariable
  rw [same]
  cases State.lookup { s with locals := some t' } name with
  | none => exact .failed (Fault.sameButSuggestion_variable name _ _) s (.refl agree)
  | some binding =>
    cases binding with
    | var value => exact .done (refl value) s (.refl agree)
    | routine routine => exact .failed (Fault.sameButSuggestion_self _) s (.refl agree)

/-- An assignment binds in the local scope if that has the name. The two scopes agree whether they
have it. -/
theorem independent_assignValue {name : String} (admitted : names name) (value : Value)
    {V : Value → Value → Prop} (refl : ∀ value, V value value) :
    Independent names V (Eval.assignValue name value) (Eval.assignValue name value) := by
  intro s t t' agree
  unfold Eval.assignValue State.assign
  simp only [Option.filter_some, Table.contains, agree name admitted]
  by_cases isLocal : (t'.get? name).isSome
  · simp only [isLocal, if_true]
    exact .done (refl _) s (.insert agree admitted _)
  · simp only [isLocal, Bool.false_eq_true, if_false]
    by_cases isGlobal : (s.globals.get? name).isSome
    · simp only [isGlobal, if_true]
      exact .done (refl _) (s.bindGlobal name (.var value)) (.refl agree)
    · simp only [isGlobal, Bool.false_eq_true, if_false]
      exact .failed (Fault.sameButSuggestion_variable name _ _) s (.refl agree)

/-- A declaration binds its name in both scopes, which then agree on it. They need not have agreed
before. -/
theorem independent_declare {name : String} (admitted : names name) (value : Value)
    {V : Unit → Unit → Prop} (refl : ∀ value, V value value) :
    Independent names V (Action.change (·.declare name value))
      (Action.change (·.declare name value)) :=
  fun s _ _ agree => .done (refl ()) s (.insert agree admitted (.var value))

/-! ## Evaluation -/

/-- Runs with different local scopes. Code is admitted that names no variables but these. -/
def comparison (names : String → Prop) : Comparison :=
  .plain names (Independent names)

/-- Every operation on the state is blind to the local scope, or concerns a variable that the code
names. -/
theorem independent_operation {V : α → α → Prop} {action : Action α}
    (operation : Comparison.Operation names action) (refl : ∀ value, V value value) :
    Independent names V action action := by
  cases operation with
  | readVariable admitted => exact independent_readVariable admitted refl
  | assignValue admitted value => exact independent_assignValue admitted value refl
  | declare admitted value => exact independent_declare admitted value refl
  | print text => exact independent_of_blind refl (blind_print text)
  | applyElements id op operands =>
    exact independent_of_blind refl (blind_applyElements id op operands)
  | makeArray | makeObject | slots => exact independent_of_blind refl fun _ _ => rfl
  | readSlot | findMethod | findFunction =>
    exact independent_of_blind refl (blind_lookup fun _ _ => rfl)
  | bindGlobal routine => exact independent_of_blind refl (blind_change fun _ _ => rfl)

/-- Actions of the comparison may be put together. Nothing needs to be passed on but equal
values. -/
theorem composes (names : String → Prop) : (comparison names).Composes := by
  apply Comparison.plain_composes
  case pure => exact fun same s t t' agree => .done same s (.refl agree)
  case fail => exact fun fault s t t' agree => .failed fault.sameButSuggestion_self s (.refl agree)
  case bind => exact fun _ => independent_bind

/-- So the comparison is a congruence, and code that names only those variables does the same in
both scopes. -/
theorem congruence (names : String → Prop) (σ : Settings) :
    (comparison names).Congruence σ σ := by
  apply Comparison.plain_congruence rfl rfl (composes names) independent_operation
  intro id name evaluate evaluate' evaluated
  apply (composes names).replaceSlot
    (independent_operation (.readSlot id name) Comparison.plain_values) evaluated
  intro v v' same
  cases Value.Corresponds.iff_eq.mp same
  exact independent_of_blind (fun _ => rfl) (blind_change fun _ _ => rfl)

/-- Evaluation does not depend on what the local scope binds other names to than those that the code
names. Nothing is asked of the bodies of calls. -/
theorem independent_eval (σ : Settings) (bound : Nat) {code : Code}
    (named : ∀ name ∈ code.namedVariables, names name) :
    Independent names (comparison names).Values (eval σ bound code) (eval σ bound code) := by
  have interrupted : Independent names (comparison names).Values Action.interrupt
      Action.interrupt := fun _ _ _ _ => .interrupted
  induction bound generalizing code with
  | zero => exact interrupted
  | succ bound inductionHypothesis =>
    have parts (part : Code) (inside : part ∈ code.parts) :=
      inductionHypothesis fun name occurs =>
        named name (Code.mem_namedVariables.mpr (.inr ⟨part, inside, occurs⟩))
    rw [eval_succ]
    apply Comparison.actions_step (congruence names σ) parts
    case named => exact fun name own => named name (Code.mem_namedVariables.mpr (.inl own))
    case declared => exact fun _ _ => rfl
    case called =>
      rintro routine _ scope _ rfl rfl
      exact independent_of_blind Comparison.plain_values (blind_enter σ scope _)
    case looped =>
      rintro pred body rfl
      exact Comparison.actions_turns (congruence names σ) bound 0
        (parts _ (by simp [Code.parts])) (parts _ (by simp [Code.parts])) interrupted

end LocalScope

/-- Local scopes are not captured and not passed on. From states that differ only in their local
scopes, and there only in variables that the code does not name, code diverges on both sides, or
ends on both sides with the same value or with faults that say the same but for a hint. The states
after are the same but for their local scopes; these agree again on the variables that the code
names, and each binds every other name as it did. -/
theorem local_scope_seen_by_name {σ : Settings} {code : Code} {s : State} {scope scope' : Scope}
    (agree : ∀ name ∈ code.namedVariables, scope.get? name = scope'.get? name) :
    let left : State := { s with locals := some scope }
    let right : State := { s with locals := some scope' }
    (Diverges σ code left ∧ Diverges σ code right) ∨
    ∃ (later : State) (after after' : Scope),
      LocalScope.Kept (· ∈ code.namedVariables) scope scope' after after' ∧
      ((∃ value, Ends σ code left (.done value { later with locals := some after }) ∧
          Ends σ code right (.done value { later with locals := some after' })) ∨
        ∃ fault fault', fault.SameButSuggestion fault' ∧
          Ends σ code left (.failed fault { later with locals := some after }) ∧
          Ends σ code right (.failed fault' { later with locals := some after' })) := by
  intro left right
  have paired (bound : Nat) :=
    LocalScope.independent_eval σ bound (fun _ => id) s scope scope' agree
  rcases diverges_or_ends σ code left with diverges | ⟨_, uninterrupted, bound, rfl⟩
  · refine .inl ⟨diverges, fun bound => ?_⟩
    have ends := paired bound
    rw [diverges bound] at ends
    generalize eval σ bound code right = outcome at ends ⊢
    cases ends
    rfl
  · have ends := paired bound
    generalize evaluated : eval σ bound code left = outcome at ends uninterrupted
    generalize evaluated' : eval σ bound code right = outcome' at ends
    cases ends with
    | done same later kept =>
      cases Value.Corresponds.iff_eq.mp same
      exact .inr ⟨later, _, _, kept, .inl
        ⟨_, ⟨uninterrupted, bound, evaluated⟩, by simp, bound, evaluated'⟩⟩
    | failed same later kept =>
      exact .inr ⟨later, _, _, kept, .inr
        ⟨_, _, same, ⟨uninterrupted, bound, evaluated⟩, by simp, bound, evaluated'⟩⟩
    | interrupted => exact absurd rfl uninterrupted

/-- A function reads a variable that only one of two callers has. It does not find it there
either. -/
theorem local_scope_seen_by_name_callers :
    let reader : Routine := ⟨"f", ["p"], .expr (.ref "hidden")⟩
    let s : State := { State.initial .default .unlimited with
      globals := (Table.empty 1).insert "f" (.routine reader) }
    let one := Binding.var (.int 1)
    let scope : Scope := ((Table.empty 8).insert "x" one).insert "hidden" one
    let scope' : Scope := (Table.empty 8).insert "x" one
    let code : Code := .expr (.set "x" (.call "f" [.ref "x"]))
    let missing : Fault := .undefinedVariable "hidden" none
    (∀ name ∈ code.namedVariables, scope.get? name = scope'.get? name) ∧
      ∃ (later : State) (after after' : Scope) (fault' : Fault),
        LocalScope.Kept (· ∈ code.namedVariables) scope scope' after after' ∧
        missing.SameButSuggestion fault' ∧
        Ends .default code { s with locals := some scope }
          (.failed missing { later with locals := some after }) ∧
        Ends .default code { s with locals := some scope' }
          (.failed fault' { later with locals := some after' }) := by
  intro reader s one scope scope' code missing
  have listed : code.namedVariables = ["x", "x"] := by decide +kernel
  have agree : ∀ name ∈ code.namedVariables, scope.get? name = scope'.get? name := by
    intro name occurs
    obtain rfl : name = "x" := by simpa [listed] using occurs
    simp [scope, scope']
  obtain ⟨t, failed⟩ :
      ∃ t, eval .default 9 code { s with locals := some scope } = .failed missing t :=
    Outcome.eq_failed (by decide +kernel)
  have known : Ends .default code { s with locals := some scope } (.failed missing t) :=
    ⟨by simp, 9, failed⟩
  refine ⟨agree, ?_⟩
  rcases local_scope_seen_by_name (s := s) agree with ⟨diverges, _⟩ |
    ⟨later, after, after', kept, ⟨value, ends, _⟩ | ⟨fault, fault', same, ends, ends'⟩⟩
  · rw [diverges 9] at failed
    cases failed
  · cases ends.unique known
  · obtain rfl : fault = missing := by
      cases ends.unique known
      rfl
    exact ⟨later, after, after', fault', kept, same, ends, ends'⟩

end SlotLang
