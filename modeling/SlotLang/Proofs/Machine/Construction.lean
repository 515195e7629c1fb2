import SlotLang.Proofs.Machine.Constructs
import SlotLang.Proofs.Machine.Evolution

/-!
# The construction of an object

An object starts with what its parent binds at the moment when the parent is evaluated, and its
members are laid over that in the order in which they are declared. The slots under construction are
no part of the state, so nothing that an initialiser does, not even to the parent, can change what
was inherited. The object enters the heap when its last member is there, in a new cell.
-/

namespace SlotLang

/-- The bindings that members declare, in order, where their initialisers have the given values. A
method uses up no value. -/
def Member.bindings : List Member → List Value → List (String × Binding)
  | .var name _ :: rest, value :: values => (name, .var value) :: bindings rest values
  | .method routine :: rest, values => (routine.name, .routine routine) :: bindings rest values
  | _, _ => []

/-- What an object inherits from a parent as the heap stands: nothing from null, and from an object
what it binds. Other values are no parents. -/
def Heap.inherited? (heap : Heap) : Value → Option (String → Option Binding)
  | .null => some fun _ => none
  | .object id => some (heap.slots id).get?
  | .int _ | .array _ => none

/-- A heap to which an object was added: the object is new, it binds what is given, and whatever
existed is untouched. -/
structure Heap.Adds (heap : Heap) (id : ObjectId) (bound : String → Option Binding)
    (later : Heap) : Prop where
  /-- No object had the identity. -/
  fresh : ∀ other : ObjectId, other.index < heap.objects.size → other ≠ id
  /-- The object exists, and no other was made. -/
  objectCount : id.index < later.objects.size ∧ later.objects.size = heap.objects.size + 1
  /-- The object binds what is given. -/
  binds : ∀ name, (later.slots id).get? name = bound name
  /-- The objects that existed are as they were. -/
  objects : ∀ other : ObjectId, other.index < heap.objects.size →
    later.slots other = heap.slots other
  /-- The arrays are as they were. -/
  arrays : later.arrays = heap.arrays

/-- Making an object adds it behind those there are and leaves these alone. -/
theorem Heap.adds_addObject (heap : Heap) (slots : Scope) :
    heap.Adds ⟨heap.objects.size⟩ slots.get? (heap.addObject slots).2 where
  fresh := by
    rintro other inside rfl
    exact absurd inside (Nat.lt_irrefl _)
  objectCount := by simp [Heap.addObject]
  binds := by
    intro name
    simp [Heap.addObject, Heap.slots]
  objects := by
    intro other inside
    have older : other.index ≠ heap.objects.size := Nat.ne_of_lt inside
    simp [Heap.addObject, Heap.slots, Array.getElem?_push, older]
  arrays := rfl

namespace Eval

/-- Adding members is evaluating their initialisers in order and then binding the names. The two
could not be told apart, since no initialiser sees the slots. -/
theorem addMembers_eq (run : Evaluator) (slots : Scope) (members : List Member) :
    addMembers run slots members =
      Construct.each .ok (members.filterMap Member.init?) run >>= fun values =>
        pure (slots.insertAll (Member.bindings members values)) := by
  induction members generalizing slots with
  | nil => rfl
  | cons member rest inductionHypothesis =>
    rw [addMembers]
    simp only [inductionHypothesis]
    cases member with
    | var name init =>
      have initial : (Member.var name init :: rest).filterMap Member.init? =
          init :: rest.filterMap Member.init? := rfl
      simp only [addMember, initial, Construct.each_ok_cons, bind_assoc, pure_bind]
      rfl
    | method routine =>
      rw [addMember, pure_bind]
      rfl

/-- A parent is null or an object, and then its slots are passed on, or it is refused. The state
stays in each of the cases. -/
theorem inherited_cases (σ : Settings) (parent : Value) (t : State) :
    (∃ slots, inherited σ parent t = .done slots t ∧
      t.heap.inherited? parent = some slots.get?) ∨
    inherited σ parent t =
        .failed (.wrongType "object parent" "object or null" parent.typeName) t ∧
      t.heap.inherited? parent = none := by
  cases parent with
  | null =>
    refine .inl ⟨Table.empty σ.objectCapacity, rfl, ?_⟩
    simp [Heap.inherited?, funext_iff]
  | object id => exact .inl ⟨t.heap.slots id, rfl, rfl⟩
  | int n => exact .inr ⟨rfl, rfl⟩
  | array id => exact .inr ⟨rfl, rfl⟩

end Eval

namespace Construct

variable {σ : Settings} {parent : Expr} {members : List Member} {s : State}
  {outcome : Outcome Value}

/-- Laying members over inherited slots ends where an initialiser fails, or else in a new object.
Where one fails no object is made. -/
theorem settles_overlay (slots : Scope) :
    Settles σ (fun run => Eval.addMembers run slots members >>= Eval.makeObject) s outcome ↔
      (∃ values u, InOrder σ .ok (members.filterMap Member.init?) s (.done values u) ∧
        outcome = Eval.makeObject (slots.insertAll (Member.bindings members values)) u) ∨
      ∃ fault u, InOrder σ .ok (members.filterMap Member.init?) s (.failed fault u) ∧
        outcome = .failed fault u := by
  simp only [Eval.addMembers_eq, bind_assoc, pure_bind]
  rw [settles_bind (steady_each σ .ok _) fun _ => steady_const _]
  simp only [settles_each]
  have made (slots : Scope) (u : State) :
      Settles σ (fun _ => Eval.makeObject slots) u outcome ↔ outcome = Eval.makeObject slots u :=
    settles_done fun _ => rfl
  simp only [made]

/-- Adding members to slots and making an object of them is steady. -/
theorem steady_overlay (slots : Scope) :
    Steady σ fun run => Eval.addMembers run slots members >>= Eval.makeObject := by
  simp only [Eval.addMembers_eq, bind_assoc, pure_bind]
  exact steady_bind (steady_each σ .ok _) fun _ => steady_const _

/-- An object literal ends where its parent fails, or it goes on with what the parent is in the
state that evaluating it leaves. -/
theorem ends_object_iff :
    Ends σ (.expr (.object parent members)) s outcome ↔
      (∃ p t, Ends σ (.expr parent) s (.done p t) ∧
        Settles σ (fun run => Eval.inherited σ p >>= fun slots =>
          Eval.addMembers run slots members >>= Eval.makeObject) t outcome) ∨
      ∃ fault t, Ends σ (.expr parent) s (.failed fault t) ∧ outcome = .failed fault t := by
  rw [ends_iff_settles (Eval.object σ · parent members) fun _ _ => rfl]
  exact settles_bind (steady_run σ (.expr parent)) fun p =>
    steady_bind (steady_const (Eval.inherited σ p)) steady_overlay

/-- What an object literal does with its parent's value: it lays the members over the slots that are
passed on, or it refuses the parent. -/
theorem ends_object_cases {p : Value} {t : State} (ended : Ends σ (.expr parent) s (.done p t)) :
    (∃ slots : Scope, t.heap.inherited? p = some slots.get? ∧ ∀ outcome,
      Ends σ (.expr (.object parent members)) s outcome ↔
        (∃ values u, InOrder σ .ok (members.filterMap Member.init?) t (.done values u) ∧
          outcome = Eval.makeObject (slots.insertAll (Member.bindings members values)) u) ∨
        ∃ fault u, InOrder σ .ok (members.filterMap Member.init?) t (.failed fault u) ∧
          outcome = .failed fault u) ∨
    t.heap.inherited? p = none ∧ ∀ outcome,
      Ends σ (.expr (.object parent members)) s outcome ↔
        outcome = .failed (.wrongType "object parent" "object or null" p.typeName) t := by
  have goesOn (outcome : Outcome Value) : Ends σ (.expr (.object parent members)) s outcome ↔
      Settles σ (fun run => Eval.inherited σ p >>= fun slots =>
        Eval.addMembers run slots members >>= Eval.makeObject) t outcome := by
    rw [ends_iff_settles (Eval.object σ · parent members) fun _ _ => rfl]
    exact settles_after ended (steady_bind (steady_const (Eval.inherited σ p)) steady_overlay)
  rcases Eval.inherited_cases σ p t with ⟨slots, passed, inherited⟩ | ⟨refused, isNone⟩
  · refine .inl ⟨slots, inherited, fun outcome => ?_⟩
    rw [goesOn, settles_const_bind passed, settles_overlay]
  · refine .inr ⟨isNone, fun outcome => ?_⟩
    rw [goesOn, settles_const_bind_failed refused]

end Construct

/-- Objects are made from a snapshot. When an object literal ends in a value, this is an object that
did not exist before. It binds every name that a member declares to what the last such member
declares, a method or the value that its initialiser had in the scopes around the literal, and every
other name as the parent bound it at the moment when the parent was evaluated. What existed after
the last initialiser is otherwise as it was. If the parent is neither null nor an object, or if it
or an initialiser fails, the state is the one in which that was found, and there is no new
object. -/
theorem object_overlays_snapshot (σ : Settings) (parent : Expr) (members : List Member)
    (s : State) :
    (∀ value v, Ends σ (.expr (.object parent members)) s (.done value v) →
      ∃ p t inherited values u id,
        Ends σ (.expr parent) s (.done p t) ∧ t.heap.inherited? p = some inherited ∧
        InOrder σ .ok (members.filterMap Member.init?) t (.done values u) ∧
        value = .object id ∧ v = { u with heap := v.heap } ∧
        u.heap.Adds id
          (fun name => (Table.lastEntry (Member.bindings members values) name).or (inherited name))
          v.heap) ∧
    (∀ fault t, Ends σ (.expr parent) s (.failed fault t) →
      Ends σ (.expr (.object parent members)) s (.failed fault t)) ∧
    ∀ p t, Ends σ (.expr parent) s (.done p t) →
      (t.heap.inherited? p = none →
        Ends σ (.expr (.object parent members)) s
          (.failed (.wrongType "object parent" "object or null" p.typeName) t)) ∧
      ∀ inherited, t.heap.inherited? p = some inherited →
        (∀ fault u, InOrder σ .ok (members.filterMap Member.init?) t (.failed fault u) →
          Ends σ (.expr (.object parent members)) s (.failed fault u)) ∧
        ∀ values u, InOrder σ .ok (members.filterMap Member.init?) t (.done values u) →
          ∃ value v, Ends σ (.expr (.object parent members)) s (.done value v) := by
  refine ⟨?_, ?_, ?_⟩
  · intro value v ends
    rcases Construct.ends_object_iff.mp ends with ⟨p, t, ended, _⟩ | ⟨fault, t, _, ⟨⟩⟩
    rcases Construct.ends_object_cases ended with ⟨slots, inherited, same⟩ | ⟨_, same⟩
    · rcases (same _).mp ends with ⟨values, u, initialised, made⟩ | ⟨_, _, _, ⟨⟩⟩
      cases made
      have bound := funext (slots.get?_insertAll (Member.bindings members values))
      exact ⟨p, t, _, values, u, _, ended, inherited, initialised, rfl, rfl,
        bound ▸ u.heap.adds_addObject _⟩
    · cases (same _).mp ends
  · intro fault t failed
    exact Construct.ends_object_iff.mpr (.inr ⟨fault, t, failed, rfl⟩)
  · intro p t ended
    rcases Construct.ends_object_cases ended with ⟨slots, inherited, same⟩ | ⟨isNone, same⟩
    · simp only [inherited, reduceCtorEq, false_implies, true_and, Option.some.injEq]
      rintro _ rfl
      constructor
      · intro fault u failed
        exact (same _).mpr (.inr ⟨fault, u, failed, rfl⟩)
      · intro values u initialised
        exact ⟨_, _, (same _).mpr (.inl ⟨values, u, initialised, rfl⟩)⟩
    · refine ⟨fun _ => (same _).mpr rfl, ?_⟩
      simp [isNone]

/-- A parent of which a slot is written by the first initialiser and read by the second, in a
literal that declares one name twice. -/
theorem object_overlays_snapshot_written_parent :
    let slots : Scope := (Table.empty 1).insert "x" (.var (.int 1))
    let s : State :=
      { State.initial .default .unlimited with
        globals := (Table.empty 1).insert "o" (.var (.object ⟨0⟩))
        heap := ⟨#[], #[slots]⟩ }
    let members : List Member := [.var "y" (.setSlot (.ref "o") "x" (.int 5)),
      .var "z" (.slot (.ref "o") "x"), .var "y" (.int 7)]
    ∃ v, Ends .default (.expr (.object (.ref "o") members)) s (.done (.object ⟨1⟩) v) ∧
      (v.heap.slots ⟨1⟩).get? "x" = some (.var (.int 1)) := by
  intro slots s members
  have yields : (eval .default 5 (.expr (.object (.ref "o") members)) s).value? =
      some (.object ⟨1⟩) := by decide +kernel
  obtain ⟨v, ended⟩ := Outcome.eq_done yields
  have ends : Ends .default (.expr (.object (.ref "o") members)) s (.done (.object ⟨1⟩) v) :=
    ⟨by simp, 5, ended⟩
  obtain ⟨p, t, inherited, values, u, id, parentEnds, passed, initialised, same, -, added⟩ :=
    (object_overlays_snapshot .default (.ref "o") members s).1 _ _ ends
  have found : Ends .default (.expr (.ref "o")) s (.done (.object ⟨0⟩) s) := by
    refine ⟨by simp, 1, ?_⟩
    simp [eval_succ, Eval.step, Eval.expression, State.readVariable, State.lookup, s, State.initial,
      Action.ofExcept, Action.pure]
  cases parentEnds.unique found
  cases passed
  cases same
  -- However many values the initialisers had, none of the members is named "x".
  have undeclared : Table.lastEntry (Member.bindings members values) "x" = none := by
    rcases values with _ | ⟨_, _ | ⟨_, _ | ⟨_, _⟩⟩⟩ <;>
      simp [members, Member.bindings, Table.lastEntry]
  refine ⟨v, ends, ?_⟩
  rw [added.binds, undeclared]
  simp [Heap.slots, s, slots]

end SlotLang
