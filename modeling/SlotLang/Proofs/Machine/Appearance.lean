import SlotLang.Machine.Display
import SlotLang.Proofs.Machine.Layout
import SlotLang.Proofs.Table.Listing

/-!
# Layout does not show in texts

The text of a value and the lines about a scope list names in their own order and follow identities
into the heap. So they are the same for two states that hold the same, however their tables are laid
out and wherever their cells are.
-/

namespace SlotLang

/-- Corresponding values are of one type. -/
theorem Value.Corresponds.typeName {arrays : ArrayId → ArrayId → Prop}
    {objects : ObjectId → ObjectId → Prop} {v v' : Value}
    (same : v.Corresponds arrays objects v') : v.typeName = v'.typeName := by
  cases same <;> rfl

namespace Displacement

variable {d : Displacement} {s s' : State} {t t' : Scope}

/-- Texts for the bindings of two scopes, in the order of the names. -/
theorem Scopes.texts_eq (same : d.Scopes t t') {text text' : String → Binding → String}
    (texts : ∀ name binding binding', d.Bindings binding binding' →
      text name binding = text' name binding') :
    (t.sortedNames.filterMap fun name => (t.get? name).map (text name)) =
      t'.sortedNames.filterMap fun name => (t'.get? name).map (text' name) := by
  rw [Table.sortedNames_congr same.mem_names]
  congr 1
  funext name
  have bound := same.bound name
  generalize t.get? name = found, t'.get? name = found' at bound ⊢
  cases bound with
  | none => rfl
  | some bindings => exact congrArg some (texts name _ _ bindings)

/-- What a slot holds is shown in the same words. An object in it is not opened, and of a routine
only the number of its parameters is shown. -/
theorem States.renderSlot_eq (same : d.States s s') {binding binding' : Binding}
    (bindings : d.Bindings binding binding') :
    s.heap.renderSlot binding = s'.heap.renderSlot binding' := by
  cases bindings with
  | routine same => simp only [Heap.renderSlot, Routine.arity, (d.signature same).2]
  | var values =>
    cases values with
    | int n => rfl
    | null => rfl
    | array array => exact congrArg Elements.render (same.elements array)
    | object object => rfl

/-- A value is shown in the same words in states that hold the same, since the listings of the
tables agree. -/
theorem States.render_eq (same : d.States s s') {value value' : Value}
    (values : value.Corresponds d.Arrays d.Objects value') :
    s.heap.render value = s'.heap.render value' := by
  cases values with
  | int n => rfl
  | null => rfl
  | array array => exact congrArg Elements.render (same.elements array)
  | object object =>
    simp only [Heap.render, Heap.renderSlots]
    rw [(same.slots object).texts_eq fun name _ _ bindings => by rw [same.renderSlot_eq bindings]]

/-- So are the names of a scope. -/
theorem States.describe_eq (same : d.States s s') (scopes : d.Scopes t t') :
    s.heap.describe t = s'.heap.describe t' := by
  apply scopes.texts_eq
  intro name binding binding' bindings
  cases bindings with
  | routine same => simp only [Heap.describeBinding, (d.signature same).2]
  | var values => simp only [Heap.describeBinding, same.render_eq values]

end Displacement

end SlotLang
