import SlotLang.Proofs.Table.Lookup
import SlotLang.Proofs.Text.Utf8
import Mathlib.Data.List.Nodup

/-!
# Sorted listings

A table lists its names in the order of its storage, which means nothing. Sorted and looked up
again, the names give a normal form: tables have the same listing exactly if they bind the same
names to the same things, whatever their hashes and however their entries came to lie.
-/

namespace SlotLang.Table

variable {hash hash' : String → Nat} {β γ : Type} {t : Table hash β}

/-! ## Sorted names -/

/-- Sorting leaves the names as they are, but for their order. -/
theorem sortedNames_perm (t : Table hash β) : t.sortedNames.Perm t.names :=
  List.mergeSort_perm _ _

/-- So the sorted names are the bound ones. -/
@[simp] theorem mem_sortedNames {name : String} :
    name ∈ t.sortedNames ↔ (t.get? name).isSome = true := by
  rw [t.sortedNames_perm.mem_iff, mem_names]

/-- And no name is among them twice. -/
theorem nodup_sortedNames (t : Table hash β) : t.sortedNames.Nodup :=
  t.sortedNames_perm.nodup_iff.mpr t.nodup_names

/-- They are in order, each not above any that comes later. -/
theorem pairwise_sortedNames (t : Table hash β) : t.sortedNames.Pairwise (· ≤ ·) := by
  have sorted := @List.pairwise_mergeSort String (fun a b => decide (a ≤ b))
    (by simpa using fun a b c => String.le_trans) (by simpa using String.le_total) t.names
  simpa [sortedNames] using sorted

/-- The bytes of the names increase along the sorted names. Names are sorted by code points, and
UTF-8 keeps their order. -/
theorem bytes_sortedNames (t : Table hash β) :
    t.sortedNames.Pairwise fun a b => Text.bytes a.toList < Text.bytes b.toList := by
  have strict := t.pairwise_sortedNames.and t.nodup_sortedNames
  apply strict.imp
  rintro a b ⟨le, distinct⟩
  have less : a < b := by
    by_contra notLess
    exact distinct (String.le_antisymm le (String.not_lt.mp notLess))
  exact Text.bytes_lt (String.lt_iff.mp less)

/-- Tables with the same names list them in the same order when they sort them, however they are
laid out. -/
theorem sortedNames_congr {t' : Table hash' γ}
    (same : ∀ name, name ∈ t.names ↔ name ∈ t'.names) : t.sortedNames = t'.sortedNames := by
  have permuted : t.names.Perm t'.names :=
    (List.perm_ext_iff_of_nodup t.nodup_names t'.nodup_names).mpr same
  have sortedPermuted : t.sortedNames.Perm t'.sortedNames :=
    (t.sortedNames_perm.trans permuted).trans t'.sortedNames_perm.symm
  exact sortedPermuted.eq_of_pairwise (fun _ _ _ _ => String.le_antisymm)
    t.pairwise_sortedNames t'.pairwise_sortedNames

/-! ## Listings -/

/-- The bound names in increasing order, each with what it is bound to. -/
def listing (t : Table hash β) : List (String × β) :=
  t.sortedNames.filterMap fun name => (t.get? name).map fun value => (name, value)

/-- The listing has a name with a value just if the name is bound to it. -/
@[simp] theorem mem_listing {name : String} {value : β} :
    (name, value) ∈ t.listing ↔ t.get? name = some value := by
  simp only [listing, List.mem_filterMap, mem_sortedNames, Option.map_eq_some_iff, Prod.mk.injEq]
  constructor
  · rintro ⟨_, -, _, bound, rfl, rfl⟩
    exact bound
  · intro bound
    exact ⟨name, by rw [bound]; rfl, value, bound, rfl, rfl⟩

/-- No sorted name is lost when it is looked up. -/
theorem map_fst_listing (t : Table hash β) : t.listing.map Prod.fst = t.sortedNames := by
  rw [listing, List.map_filterMap]
  refine (List.filterMap_congr fun name member => ?_).trans List.filterMap_some
  obtain ⟨value, bound⟩ := Option.isSome_iff_exists.mp (mem_sortedNames.mp member)
  rw [bound]
  rfl

/-- The bytes of the names increase along a listing. -/
theorem bytes_listing (t : Table hash β) :
    t.listing.Pairwise fun a b => Text.bytes a.1.toList < Text.bytes b.1.toList := by
  have increasing := t.bytes_sortedNames
  rw [← t.map_fst_listing, List.pairwise_map] at increasing
  exact increasing

/-- A bound name is listed once. -/
theorem count_listing (t : Table hash β) (name : String) :
    (t.listing.map Prod.fst).count name = if t.contains name then 1 else 0 := by
  rw [t.map_fst_listing, t.nodup_sortedNames.count]
  exact if_congr mem_sortedNames rfl rfl

/-- A listing is a normal form of what a table binds: it forgets the layout and nothing else. -/
theorem listing_eq_iff {t' : Table hash' β} :
    t.listing = t'.listing ↔ ∀ name, t.get? name = t'.get? name := by
  constructor
  · intro same name
    ext value
    rw [← mem_listing, same, mem_listing]
  · intro same
    have names : ∀ name, name ∈ t.names ↔ name ∈ t'.names := by
      intro name
      rw [mem_names, mem_names, same]
    simp only [listing, sortedNames_congr names, same]

/-- What is made of the sorted names and what they are bound to is made of the listing. -/
theorem filterMap_sortedNames (t : Table hash β) (text : String → β → γ) :
    (t.sortedNames.filterMap fun name => (t.get? name).map (text name)) =
      t.listing.map fun entry => text entry.1 entry.2 := by
  rw [listing, List.map_filterMap]
  simp only [Option.map_map, Function.comp_def]

end SlotLang.Table
