import SlotLang.Host.Session
import SlotLang.Proofs.Table.Listing

/-!
# What is shown of a table

An object is shown by its slots, and a session by its global names. Both go through the listing of
a table, which is a normal form of what the table binds, so neither shows how the table came to be.
Of the heap, the text of an object uses the elements of arrays only. It opens no other object and
not itself a second time, and it ends however objects refer to each other.
-/

namespace SlotLang

/-! ## Heaps in which the same is found -/

/-- Identities lead to the same in two heaps: arrays have the same elements, and the slots of
objects bind the same. The tables that hold the slots may differ. -/
structure Heap.ReadsAs (heap heap' : Heap) : Prop where
  /-- Arrays have the same elements. -/
  elements : ∀ id, heap.elements id = heap'.elements id
  /-- Objects have the same slots. -/
  slots : ∀ id name, (heap.slots id).get? name = (heap'.slots id).get? name

namespace Heap

variable {heap heap' : Heap} {t t' : Scope}

/-! ## Texts -/

/-- The text of slots goes through the listing of the table, so it does not depend on where the
names are in it. -/
theorem renderSlots_eq (heap : Heap) (t : Scope) :
    heap.renderSlots t =
      "\x7b" ++ ", ".intercalate
        (t.listing.map fun entry => entry.1 ++ ": " ++ heap.renderSlot entry.2) ++ "\x7d" := by
  rw [renderSlots, Table.filterMap_sortedNames]

/-- So do the lines about the names of a scope. -/
theorem describe_eq (heap : Heap) (t : Scope) :
    heap.describe t = t.listing.map fun entry => heap.describeBinding entry.1 entry.2 :=
  t.filterMap_sortedNames heap.describeBinding

/-- The text of a slot needs no object. -/
theorem renderSlot_congr (arrays : ∀ id, heap.elements id = heap'.elements id)
    (binding : Binding) : heap.renderSlot binding = heap'.renderSlot binding := by
  cases binding with
  | routine => rfl
  | var value =>
    cases value with
    | int => rfl
    | null => rfl
    | array id => exact congrArg Elements.render (arrays id)
    | object => rfl

/-- Slots that bind the same have the same text, in any two heaps in which the arrays are the same:
objects in slots are not opened, so the heaps may differ in them. -/
theorem renderSlots_congr (arrays : ∀ id, heap.elements id = heap'.elements id)
    (same : ∀ name, t.get? name = t'.get? name) : heap.renderSlots t = heap'.renderSlots t' := by
  simp only [renderSlots_eq, Table.listing_eq_iff.mpr same, renderSlot_congr arrays]

/-- A value has the same text in heaps in which the same is found. -/
theorem ReadsAs.render_eq (reads : heap.ReadsAs heap') (value : Value) :
    heap.render value = heap'.render value := by
  cases value with
  | int => rfl
  | null => rfl
  | array id => exact congrArg Elements.render (reads.elements id)
  | object id => exact renderSlots_congr reads.elements (reads.slots id)

/-- Scopes that bind the same are described by the same lines in such heaps. Here objects are
opened, one level deep, so their slots have to bind the same too. -/
theorem ReadsAs.describe_eq (reads : heap.ReadsAs heap')
    (same : ∀ name, t.get? name = t'.get? name) : heap.describe t = heap'.describe t' := by
  have line (name : String) (binding : Binding) :
      heap.describeBinding name binding = heap'.describeBinding name binding := by
    cases binding with
    | routine => rfl
    | var value => simp only [describeBinding, reads.render_eq]
  simp only [Heap.describe_eq, Table.listing_eq_iff.mpr same, line]

end Heap

/-! ## Objects and sessions -/

/-- Two tables that bind the same cannot be told apart by what is shown: objects with them as slots
have the same text, whatever other objects there are, and sessions with them as global scopes
describe them by the same lines. Text and lines go through the listing, which has every bound name
once, in the order of the bytes of the names. A line gives the value of a variable, and of a routine
the names of its parameters. And in a slot, an object is not opened. -/
theorem shown_by_bindings (t t' : Scope) :
    ((∀ name, t.get? name = t'.get? name) →
      (∀ (heap heap' : Heap) (id id' : ObjectId), heap.slots id = t → heap'.slots id' = t' →
        (∀ array, heap.elements array = heap'.elements array) →
        heap.render (.object id) = heap'.render (.object id')) ∧
      ∀ session session' : Session, session.state.globals = t → session'.state.globals = t' →
        session.state.heap.ReadsAs session'.state.heap →
        session.describeGlobals = session'.describeGlobals) ∧
    (t.listing.Pairwise fun a b => Text.bytes a.1.toList < Text.bytes b.1.toList) ∧
    (∀ name, (t.listing.map Prod.fst).count name = if t.contains name then 1 else 0) ∧
    (∀ name binding, (name, binding) ∈ t.listing ↔ t.get? name = some binding) ∧
    ∀ heap : Heap,
      (∀ id, heap.slots id = t → heap.render (.object id) =
        "\x7b" ++ ", ".intercalate
          (t.listing.map fun entry => entry.1 ++ ": " ++ heap.renderSlot entry.2) ++ "\x7d") ∧
      (∀ id, heap.renderSlot (.var (.object id)) = "<object>") ∧
      heap.describe t = t.listing.map fun entry =>
        match entry.2 with
        | .var value => "var " ++ entry.1 ++ " = " ++ heap.render value
        | .routine routine =>
          "defn " ++ entry.1 ++ "(" ++ ", ".intercalate routine.params ++ ")" := by
  refine ⟨?_, t.bytes_listing, t.count_listing, fun _ _ => Table.mem_listing, ?_⟩
  · intro same
    constructor
    · rintro heap heap' id id' rfl rfl arrays
      exact Heap.renderSlots_congr arrays same
    · rintro session session' rfl rfl reads
      exact reads.describe_eq same
  · intro heap
    refine ⟨?_, fun _ => rfl, ?_⟩
    · rintro id rfl
      exact heap.renderSlots_eq _
    · rw [heap.describe_eq t]
      apply List.map_congr_left
      rintro ⟨name, bound⟩ -
      cases bound <;> rfl

/-- Two tables that were filled in different orders, one of which grew and forgot a name. They are
the slots of an object and refer to it, and they are the global scopes of two sessions. -/
theorem shown_by_bindings_circle :
    let itself := Binding.var (.object ⟨0⟩)
    let two := Binding.var (.int 2)
    let grown : Scope :=
      ((((Table.empty 0).insert "b" two).insert "a" itself).insert "c" itself).erase "c"
    let wide : Scope := ((Table.empty 11).insert "a" itself).insert "b" two
    let session (t : Scope) : Session :=
      ⟨.default, ⟨t, none, (Heap.empty.addObject t).2, .unlimited, 0⟩⟩
    grown.names = ["b", "a"] ∧ wide.names = ["a", "b"] ∧
      (∀ name, grown.get? name = wide.get? name) ∧
      (Heap.empty.addObject grown).2.render (.object ⟨0⟩) = "\x7ba: <object>, b: 2\x7d" ∧
      (Heap.empty.addObject wide).2.render (.object ⟨0⟩) = "\x7ba: <object>, b: 2\x7d" ∧
      (session grown).describeGlobals = (session wide).describeGlobals := by
  intro itself two grown wide session
  have same : ∀ name, grown.get? name = wide.get? name := by
    intro name
    simp only [grown, wide, Table.get?_insert, Table.get?_erase, Table.get?_empty]
    split_ifs <;> simp_all
  have names : wide.names = ["a", "b"] := by decide +kernel
  have sorted : wide.sortedNames = ["a", "b"] := by
    rw [Table.sortedNames, names]
    exact List.mergeSort_of_pairwise (by decide +kernel)
  have bound : wide.get? "a" = some itself ∧ wide.get? "b" = some two := by
    simp [wide]
  have listing : wide.listing = [("a", itself), ("b", two)] := by
    simp [Table.listing, sorted, bound]
  have slots (t : Scope) : (Heap.empty.addObject t).2.slots ⟨0⟩ = t := rfl
  have beyond (t : Scope) (n : Nat) :
      (Heap.empty.addObject t).2.slots ⟨n + 1⟩ = Table.empty 0 := rfl
  have elements (t t' : Scope) (id : ArrayId) :
      (Heap.empty.addObject t).2.elements id = (Heap.empty.addObject t').2.elements id := rfl
  have reads : (Heap.empty.addObject grown).2.ReadsAs (Heap.empty.addObject wide).2 := by
    refine ⟨elements grown wide, ?_⟩
    rintro ⟨_ | n⟩ name
    · rw [slots, slots, same]
    · rw [beyond, beyond]
  obtain ⟨objects, sessions⟩ := (shown_by_bindings grown wide).1 same
  have alike := objects _ _ _ _ (slots grown) (slots wide) reads.elements
  have described := sessions (session grown) (session wide) rfl rfl reads
  have shown := ((shown_by_bindings wide wide).2.2.2.2 _).1 _ (slots wide)
  have text : "\x7b" ++ ", ".intercalate ([("a", itself), ("b", two)].map fun entry =>
      entry.1 ++ ": " ++ (Heap.empty.addObject wide).2.renderSlot entry.2) ++ "\x7d" =
        "\x7ba: <object>, b: 2\x7d" := by decide +kernel
  rw [listing, text] at shown
  exact ⟨by decide +kernel, names, same, alike.trans shown, shown, described⟩

end SlotLang
