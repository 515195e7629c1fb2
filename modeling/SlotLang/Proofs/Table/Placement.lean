import SlotLang.Proofs.Table.Lookup

/-!
# Where names stand

In which chain of a table a name stands, and at which place of the chain, depends on the names that
were bound and not on what they were bound to. Binding a name commutes with forgetting what names
are bound to. So tables that have the same names at the same places list them in the same order, and
still do after the same name is bound in both.
-/

namespace SlotLang

variable {hash : String → Nat} {β γ : Type}

namespace Buckets

/-- The row with everything that a name is bound to replaced. -/
def map (f : β → γ) (b : Buckets β) : Buckets γ :=
  ⟨b.chains.map (List.map (Prod.map id f)), b.size⟩

/-- In one chain, binding a name and replacing what names are bound to may be done in either
order. -/
theorem map_putEntry (f : β → γ) (key : String) (value : β) (chain : List (String × β)) :
    (putEntry key value chain).map (Prod.map id f) =
      putEntry key (f value) (chain.map (Prod.map id f)) := by
  induction chain with
  | nil => rfl
  | cons entry rest inductionHypothesis =>
    simp only [putEntry, List.map_cons, Prod.map_fst, id]
    split
    · rfl
    · rw [List.map_cons, inductionHypothesis]

/-- A look-up finds what the name is bound to afterwards. -/
theorem lookup_map (f : β → γ) (key : String) (chain : List (String × β)) :
    (chain.map (Prod.map id f)).lookup key = (chain.lookup key).map f := by
  induction chain with
  | nil => rfl
  | cons entry rest inductionHypothesis =>
    obtain ⟨name, bound⟩ := entry
    rw [List.map_cons, Prod.map_apply, lookup_cons, lookup_cons, inductionHypothesis, id]
    split
    · rfl
    · rfl

/-- So it is for a change of one chain of a row, if it is for the chain. -/
theorem map_modify (f : β → γ) (chains : Array (List (String × β))) (i : Nat)
    {change : List (String × β) → List (String × β)}
    {change' : List (String × γ) → List (String × γ)}
    (same : ∀ chain, (change chain).map (Prod.map id f) = change' (chain.map (Prod.map id f))) :
    (chains.modify i change).map (List.map (Prod.map id f)) =
      (chains.map (List.map (Prod.map id f))).modify i change' := by
  apply Array.ext_getElem?
  intro j
  simp only [Array.getElem?_map, Array.getElem?_modify]
  split
  · cases chains[j]? with
    | none => rfl
    | some chain => exact congrArg some (same chain)
  · rfl

/-- The entries are as before but for what their names are bound to. -/
theorem entries_map (f : β → γ) (b : Buckets β) :
    (b.map f).entries = b.entries.map (Prod.map id f) := by
  simp [entries, map, List.map_flatten]

/-- An entry is scattered by its name, so replacing what the name is bound to changes no place. -/
theorem map_scatter (f : β → γ) (chains : Array (List (String × β))) (entry : String × β) :
    (scatter hash chains entry).map (List.map (Prod.map id f)) =
      scatter hash (chains.map (List.map (Prod.map id f))) (Prod.map id f entry) := by
  simp only [scatter, Array.size_map, Prod.map_fst, id]
  exact map_modify f chains _ fun _ => List.map_append

/-- So it is for entries that are scattered one after the other. -/
theorem map_foldl_scatter (f : β → γ) (added : List (String × β))
    (chains : Array (List (String × β))) :
    (added.foldl (scatter hash) chains).map (List.map (Prod.map id f)) =
      (added.map (Prod.map id f)).foldl (scatter hash)
        (chains.map (List.map (Prod.map id f))) := by
  induction added generalizing chains with
  | nil => rfl
  | cons entry rest inductionHypothesis =>
    rw [List.foldl_cons, inductionHypothesis, map_scatter, List.map_cons, List.foldl_cons]

/-- And so a row grows in the same way. -/
theorem map_grow (f : β → γ) (b : Buckets β) : (b.grow hash).map f = (b.map f).grow hash := by
  rw [grow, grow, entries_map]
  simp only [map, map_foldl_scatter, Array.size_map, Array.map_replicate, List.map_nil]

/-- A name belongs to the chain at the same place. -/
theorem place_map (f : β → γ) (b : Buckets β) (key : String) :
    (b.map f).place hash key = b.place hash key := by
  simp [place, map]

/-- So a look-up in the row searches a chain with the same names, and finds what its name is bound
to afterwards. -/
theorem get?_map (f : β → γ) (b : Buckets β) (key : String) :
    (b.map f).get? hash key = (b.get? hash key).map f := by
  have sameChain : (b.map f).chain hash key = (b.chain hash key).map (Prod.map id f) := by
    rw [chain, chain, place_map]
    simp only [map, Array.getD_eq_getD_getElem?, Array.getElem?_map]
    cases b.chains[b.place hash key]? with
    | none => rfl
    | some chain => rfl
  rw [get?, get?, sameChain, lookup_map]

/-- Storing a name and replacing what names are bound to may be done in either order: place and size
depend on the names only. -/
theorem map_store (f : β → γ) (b : Buckets β) (key : String) (value : β) :
    (b.store hash key value).map f = (b.map f).store hash key (f value) := by
  rw [store, store, get?_map, Option.isSome_map, place_map]
  simp only [map, map_modify f b.chains _ (map_putEntry f key value)]

/-- Binding a name commutes with replacing what names are bound to. -/
theorem map_insert (f : β → γ) (b : Buckets β) (key : String) (value : β) :
    (b.insert hash key value).map f = (b.map f).insert hash key (f value) := by
  rw [insert, insert, ← map_store, get?_map, Option.isNone_map]
  simp only [map, Array.size_map]
  split
  · exact map_grow f _
  · rfl

end Buckets

namespace Table

/-- Tables with the same names at the same places. -/
def SameLayout (t t' : Table hash β) : Prop :=
  t.buckets.map (fun _ => ()) = t'.buckets.map fun _ => ()

variable {t t' : Table hash β}

/-- Tables with the same layout list the same names in the same order. -/
theorem SameLayout.names_eq (same : t.SameLayout t') : t.names = t'.names := by
  have listed (t : Table hash β) :
      (t.buckets.map fun _ => ()).entries.map Prod.fst = t.names := by
    rw [Buckets.entries_map, List.map_map]
    rfl
  rw [← listed, ← listed, same]

/-- They still have the same layout after a name is bound in both, to whatever it is. -/
theorem SameLayout.insert (same : t.SameLayout t') (key : String) (value value' : β) :
    (t.insert key value).SameLayout (t'.insert key value') := by
  show Buckets.map _ (t.buckets.insert hash key value) =
    Buckets.map _ (t'.buckets.insert hash key value')
  rw [Buckets.map_insert, Buckets.map_insert, same]

end Table

end SlotLang
