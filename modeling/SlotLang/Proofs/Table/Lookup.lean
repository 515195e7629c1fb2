import SlotLang.Table.Basic
import Mathlib.Data.List.Perm.Lattice

/-!
# What a table binds

A look-up finds exactly the entries of the row, so moving entries to a longer row changes no
look-up. From this every operation of a table gets one equation through `get?`, and the listing of
names gets its meaning: each bound name once. Nothing here depends on the hash.
-/

namespace SlotLang

namespace Buckets

variable {hash : String → Nat} {β : Type}

/-! ## One chain -/

/-- A look-up takes the first entry if it has the name and searches the rest if it has not. -/
theorem lookup_cons (name tested : String) (bound : β) (rest : List (String × β)) :
    ((name, bound) :: rest).lookup tested =
      if tested = name then some bound else rest.lookup tested := by
  by_cases same : tested = name
  · simp [same]
  · have different : (tested == name) = false := beq_eq_false_iff_ne.mpr same
    simp [List.lookup_cons, different, same]

/-- In a chain without repeated names a look-up finds exactly the entries. With repeated ones it
would find the first of each only. -/
theorem lookup_eq_some_iff {chain : List (String × β)} (distinct : (chain.map Prod.fst).Nodup)
    (key : String) (value : β) : chain.lookup key = some value ↔ (key, value) ∈ chain := by
  induction chain with
  | nil => simp
  | cons first rest inductionHypothesis =>
    obtain ⟨name, bound⟩ := first
    simp only [List.map_cons, List.nodup_cons] at distinct
    have later := inductionHypothesis distinct.2
    rw [lookup_cons]
    by_cases same : key = name
    · subst same
      have absent : (key, value) ∉ rest := fun member =>
        distinct.1 (List.mem_map.mpr ⟨(key, value), member, rfl⟩)
      simp [absent, eq_comm]
    · simp [later, same]

/-- Binding a name in a chain is seen by a look-up of that name and of no other. This needs no
condition on the chain. -/
theorem lookup_putEntry (key tested : String) (value : β) (chain : List (String × β)) :
    (putEntry key value chain).lookup tested =
      if tested = key then some value else chain.lookup tested := by
  induction chain with
  | nil => rw [putEntry, lookup_cons]
  | cons first rest inductionHypothesis =>
    obtain ⟨name, bound⟩ := first
    by_cases found : name = key
    · subst found
      simp only [putEntry, if_true, lookup_cons]
      split <;> rfl
    · simp only [putEntry, found, if_false, lookup_cons, inductionHypothesis]
      by_cases same : tested = name
      · simp [same, found]
      · simp [same]

/-- Where no name is bound twice, dropping one leaves exactly the entries of the other names: there
is no second entry that the dropped one had hidden. -/
theorem mem_dropEntry {chain : List (String × β)} (distinct : (chain.map Prod.fst).Nodup)
    (key : String) (entry : String × β) :
    entry ∈ dropEntry key chain ↔ entry ∈ chain ∧ entry.1 ≠ key := by
  rw [(dropEntry_perm key chain).mem_iff]
  induction chain with
  | nil => simp
  | cons first rest inductionHypothesis =>
    rw [List.map_cons, List.nodup_cons] at distinct
    by_cases same : first.1 = key
    · have others : entry ∈ rest → entry.1 ≠ key := by
        rintro inside rfl
        exact distinct.1 (List.mem_map.mpr ⟨entry, inside, same.symm⟩)
      rw [List.eraseP_cons_of_pos (by simpa using same), List.mem_cons]
      constructor
      · exact fun inside => ⟨.inr inside, others inside⟩
      · rintro ⟨rfl | inside, different⟩
        · exact absurd same different
        · exact inside
    · rw [List.eraseP_cons_of_neg (by simpa using same), List.mem_cons, List.mem_cons,
        inductionHypothesis distinct.2]
      constructor
      · rintro (rfl | ⟨inside, different⟩)
        · exact ⟨.inl rfl, same⟩
        · exact ⟨.inr inside, different⟩
      · rintro ⟨rfl | inside, different⟩
        · exact .inl rfl
        · exact .inr ⟨inside, different⟩

/-- Dropping a name from a chain is seen by a look-up of that name and of no other, although the
entries left may stand in another order: a look-up depends on which they are only. -/
theorem lookup_dropEntry {chain : List (String × β)} (distinct : (chain.map Prod.fst).Nodup)
    (key tested : String) :
    (dropEntry key chain).lookup tested = if tested = key then none else chain.lookup tested := by
  apply Option.ext
  intro value
  rw [lookup_eq_some_iff (nodup_dropEntry distinct key), mem_dropEntry distinct]
  split
  · next same => simp [same]
  · next different => simp [different, lookup_eq_some_iff distinct]

/-! ## The row -/

/-- A look-up in the row finds exactly the row's entries: an entry sits in the chain that its name
selects, and that chain binds the name once. -/
theorem get?_eq_some_iff {b : Buckets β} (nonempty : 0 < b.chains.size)
    (placed : Placed hash b.chains) (distinct : Distinct b.chains) (key : String) (value : β) :
    b.get? hash key = some value ↔ (key, value) ∈ b.entries := by
  have chainOf := getElem?_place hash nonempty key
  rw [get?, lookup_eq_some_iff (distinct _ _ chainOf)]
  constructor
  · intro member
    have inRow : b.chain hash key ∈ b.chains.toList :=
      List.mem_iff_getElem?.mpr ⟨b.place hash key, by simpa using chainOf⟩
    exact List.mem_flatten.mpr ⟨_, inRow, member⟩
  · intro member
    obtain ⟨chain, inRow, inChain⟩ := List.mem_flatten.mp member
    obtain ⟨i, found⟩ := List.mem_iff_getElem?.mp inRow
    have foundAt : b.chains[i]? = some chain := by simpa using found
    have here : b.place hash key = i := placed i chain foundAt (key, value) inChain
    rw [here, foundAt] at chainOf
    exact Option.some.inj chainOf ▸ inChain

/-- The chain of a name after one chain of the row was changed: the changed one, if the two names
share it. -/
theorem chain_modify {b : Buckets β} (nonempty : 0 < b.chains.size) (key tested : String)
    (change : List (String × β) → List (String × β)) (size : Nat) :
    (⟨b.chains.modify (b.place hash key) change, size⟩ : Buckets β).chain hash tested =
      if b.place hash tested = b.place hash key then change (b.chain hash tested)
      else b.chain hash tested := by
  have inside : b.place hash tested < b.chains.size := Nat.mod_lt _ nonempty
  have samePlace : (⟨b.chains.modify (b.place hash key) change, size⟩ : Buckets β).place hash
      tested = b.place hash tested := by simp [place]
  rw [chain, samePlace, chain]
  simp only [Array.getD_eq_getD_getElem?, Array.getElem?_modify]
  by_cases same : b.place hash tested = b.place hash key
  · simp [same, same ▸ inside]
  · simp [same, Ne.symm same]

/-- Storing a name is seen by a look-up of that name. A look-up of another one goes to another
chain, or to the same chain, in which nothing else has changed. -/
theorem get?_store {b : Buckets β} (nonempty : 0 < b.chains.size) (key tested : String)
    (value : β) :
    (b.store hash key value).get? hash tested =
      if tested = key then some value else b.get? hash tested := by
  rw [get?, store, chain_modify nonempty, get?]
  by_cases together : b.place hash tested = b.place hash key
  · rw [if_pos together, lookup_putEntry]
  · have different : tested ≠ key := fun same => together (by rw [same])
    rw [if_neg together, if_neg different]

/-- Growing changes no look-up. The entries are the same, and a look-up finds exactly these in the
longer row as well. -/
theorem get?_grow {b : Buckets β} (nonempty : 0 < b.chains.size) (placed : Placed hash b.chains)
    (distinct : Distinct b.chains) (tested : String) :
    (b.grow hash).get? hash tested = b.get? hash tested := by
  have distinctAfter : Distinct (b.grow hash).chains :=
    distinct_grow (nodup_entries placed distinct)
  have nonemptyAfter : 0 < (b.grow hash).chains.size := by
    rw [size_chains_grow]
    exact Nat.succ_pos _
  apply Option.ext
  intro value
  rw [get?_eq_some_iff nonemptyAfter (placed_grow b) distinctAfter,
    get?_eq_some_iff nonempty placed distinct]
  exact (entries_grow_perm hash b).mem_iff

/-- Binding a name is seen by a look-up of that name and of no other, whether the row grows or
not. -/
theorem get?_insert {b : Buckets β} (wellFormed : b.WellFormed hash) (key tested : String)
    (value : β) :
    (b.insert hash key value).get? hash tested =
      if tested = key then some value else b.get? hash tested := by
  have nonempty : 0 < (b.store hash key value).chains.size :=
    size_chains_store hash b key value ▸ wellFormed.nonempty
  rw [← get?_store wellFormed.nonempty, insert]
  split
  · exact get?_grow nonempty (placed_store wellFormed.placed key value)
      (distinct_store wellFormed.distinct key value) tested
  · rfl

/-- Forgetting a name is seen by a look-up of that name and of no other. A name that is not bound
leaves the row as it is. -/
theorem get?_erase {b : Buckets β} (wellFormed : b.WellFormed hash) (key tested : String) :
    (b.erase hash key).get? hash tested =
      if tested = key then none else b.get? hash tested := by
  rw [erase]
  split
  · rw [get?, chain_modify wellFormed.nonempty, get?]
    by_cases together : b.place hash tested = b.place hash key
    · have chainOf := getElem?_place hash wellFormed.nonempty tested
      rw [if_pos together, lookup_dropEntry (wellFormed.distinct _ _ chainOf)]
    · have different : tested ≠ key := fun same => together (by rw [same])
      rw [if_neg together, if_neg different]
  · next unbound =>
    by_cases same : tested = key
    · subst same
      simpa using unbound
    · rw [if_neg same]

/-- In an emptied row no look-up finds anything, although the chains are still there. -/
theorem get?_clear (b : Buckets β) (tested : String) : b.clear.get? hash tested = none := by
  have nothing (found : Option (List (String × β))) :
      (found.map fun _ => ([] : List (String × β))).getD [] = [] := by
    cases found <;> rfl
  have emptied : b.clear.chain hash tested = [] := by
    simp only [chain, clear, Array.getD_eq_getD_getElem?, Array.getElem?_map, nothing]
  rw [get?, emptied]
  rfl

/-- Nor does it in a new row, of whatever capacity. -/
theorem get?_empty (capacity : Nat) (tested : String) :
    (empty capacity : Buckets β).get? hash tested = none := by
  have chainOf := getElem?_place (β := β) hash (wellFormed_empty hash capacity).nonempty tested
  simp only [empty, Array.getElem?_replicate] at chainOf
  split at chainOf
  · rw [get?, empty, ← Option.some.inj chainOf]
    rfl
  · simp at chainOf

end Buckets

namespace Table

variable {hash : String → Nat} {β : Type}

/-! ## Look-ups after each operation -/

/-- A new table binds nothing. -/
@[simp] theorem get?_empty (capacity : Nat) (tested : String) :
    (empty capacity : Table hash β).get? tested = none :=
  Buckets.get?_empty capacity tested

/-- A table binds what was bound last to a name. This equation and those beside it are all that is
said of tables from here on, so nothing depends on their chains. -/
@[simp] theorem get?_insert (table : Table hash β) (key tested : String) (value : β) :
    (table.insert key value).get? tested = if tested = key then some value else table.get? tested :=
  Buckets.get?_insert table.wellFormed key tested value

/-- A name that was forgotten is not bound, and all others are as before. -/
@[simp] theorem get?_erase (table : Table hash β) (key tested : String) :
    (table.erase key).get? tested = if tested = key then none else table.get? tested :=
  Buckets.get?_erase table.wellFormed key tested

/-- A table that was cleared binds nothing. -/
@[simp] theorem get?_clear (table : Table hash β) (tested : String) :
    table.clear.get? tested = none :=
  Buckets.get?_clear table.buckets tested

/-! ## Several entries -/

/-- Bind names one after the other. -/
def insertAll (table : Table hash β) (entries : List (String × β)) : Table hash β :=
  entries.foldl (fun table entry => table.insert entry.1 entry.2) table

/-- What the last entry of a name holds, if there is one. -/
def lastEntry (entries : List (String × β)) (name : String) : Option β :=
  entries.reverse.lookup name

/-- An entry in front counts only if its name does not come again. -/
theorem lastEntry_cons (key : String) (value : β) (rest : List (String × β)) (tested : String) :
    lastEntry ((key, value) :: rest) tested =
      (lastEntry rest tested).or (if tested = key then some value else none) := by
  rw [lastEntry, List.reverse_cons, List.lookup_append, Buckets.lookup_cons]
  rfl

/-- The last entry of a name wins over its earlier ones and over what the table bound before. -/
theorem get?_insertAll (table : Table hash β) (entries : List (String × β)) (tested : String) :
    (table.insertAll entries).get? tested = (lastEntry entries tested).or (table.get? tested) := by
  induction entries generalizing table with
  | nil => rfl
  | cons entry rest inductionHypothesis =>
    obtain ⟨key, value⟩ := entry
    have later := inductionHypothesis (table.insert key value)
    rw [lastEntry_cons, Option.or_assoc]
    show ((table.insert key value).insertAll rest).get? tested = _
    rw [later, get?_insert]
    by_cases same : tested = key
    · simp [same]
    · simp [same]

/-! ## The listing of names -/

/-- The names listed are the names bound. -/
theorem mem_names (table : Table hash β) (name : String) :
    name ∈ table.names ↔ (table.get? name).isSome := by
  have found := Buckets.get?_eq_some_iff table.wellFormed.nonempty table.wellFormed.placed
    table.wellFormed.distinct name
  rw [Option.isSome_iff_exists, names, List.mem_map]
  constructor
  · rintro ⟨⟨key, value⟩, member, rfl⟩
    exact ⟨value, (found value).mpr member⟩
  · rintro ⟨value, bound⟩
    exact ⟨(name, value), (found value).mp bound, rfl⟩

/-- No name is listed twice. -/
theorem nodup_names (table : Table hash β) : table.names.Nodup :=
  Buckets.nodup_entries table.wellFormed.placed table.wellFormed.distinct

/-- The size is the number of names listed. -/
theorem size_eq_length_names (table : Table hash β) : table.size = table.names.length := by
  rw [names, List.length_map]
  exact table.wellFormed.counted

end Table

end SlotLang
