import SlotLang.Proofs.Table.FiniteMap

/-!
# Rows under tables

Under every table is a row of chains. Whatever was done to the table, its row has a chain, each
entry stands in the chain that the hash of its name selects, no name stands there twice, the cached
size is the number of entries, and there are at most two of them for each chain. A row gets longer
only when a new name would be one too many. All entries then move to their places in the longer row.
-/

namespace SlotLang

namespace Buckets

variable {hash : String → Nat} {β : Type} {b : Buckets β}

/-! ## A new name -/

/-- A name that a chain does not bind yet gets one more entry. It goes to the end, but the order is
left open. -/
theorem putEntry_perm {key : String} {chain : List (String × β)} (value : β)
    (absent : chain.lookup key = none) :
    (putEntry key value chain).Perm ((key, value) :: chain) := by
  induction chain with
  | nil => exact .refl _
  | cons first rest inductionHypothesis =>
    obtain ⟨name, bound⟩ := first
    rw [lookup_cons] at absent
    split at absent
    · simp at absent
    · next different =>
      rw [putEntry, if_neg (Ne.symm different)]
      exact ((inductionHypothesis absent).cons _).trans (.swap _ _ _)

/-- Storing a new name adds one entry. -/
theorem entries_store_perm (nonempty : 0 < b.chains.size) {key : String} (value : β)
    (absent : b.get? hash key = none) :
    (b.store hash key value).entries.Perm ((key, value) :: b.entries) := by
  have added := flatten_modify_perm (toList_getElem?_place hash nonempty key)
    (putEntry_perm value absent)
  simpa [store, entries] using added

/-- Binding a new name adds one entry, whether the row grows or not: growing keeps the entries. -/
theorem entries_insert_perm (nonempty : 0 < b.chains.size) {key : String} (value : β)
    (absent : b.get? hash key = none) :
    (b.insert hash key value).entries.Perm ((key, value) :: b.entries) := by
  have stored := entries_store_perm nonempty value absent
  rw [insert]
  split
  · exact (entries_grow_perm hash _).trans stored
  · exact stored

/-! ## The number of chains -/

/-- A row grows just if a new name makes more than two entries for each chain. An old name never
makes it grow. -/
theorem size_chains_insert (wellFormed : b.WellFormed hash) (key : String) (value : β) :
    (b.insert hash key value).chains.size =
      if b.get? hash key = none ∧ b.size = 2 * b.chains.size then 2 * b.chains.size + 1
      else b.chains.size := by
  have loaded := wellFormed.loaded
  have stored := size_chains_store hash b key value
  have size : (b.store hash key value).size =
      if b.get? hash key = none then b.size + 1 else b.size := by
    cases bound : b.get? hash key <;> simp [store, bound]
  rw [insert]
  simp only [stored, size]
  by_cases absent : b.get? hash key = none
  · have new : (b.get? hash key).isNone = true := Option.isNone_iff_eq_none.mpr absent
    by_cases full : b.size = 2 * b.chains.size
    · rw [if_pos absent, if_pos ⟨new, by omega⟩, if_pos ⟨absent, full⟩, size_chains_grow, stored]
    · rw [if_pos absent, if_neg (by omega), if_neg fun both => full both.2, stored]
  · have old : ¬(b.get? hash key).isNone = true := fun new =>
      absent (Option.isNone_iff_eq_none.mp new)
    rw [if_neg absent, if_neg fun both => old both.1, if_neg fun both => absent both.1, stored]

/-- Forgetting a name leaves the number of chains as it is, so a row never gets shorter. -/
theorem size_chains_erase (b : Buckets β) (key : String) :
    (b.erase hash key).chains.size = b.chains.size := by
  rw [erase]
  split
  · exact Array.size_modify
  · rfl

/-- So does forgetting all names. -/
theorem size_chains_clear (b : Buckets β) : b.clear.chains.size = b.chains.size :=
  Array.size_map ..

end Buckets

namespace Table

variable {hash : String → Nat} {ι β : Type}

/-! ## One request -/

/-- A name that is not listed is not found. -/
theorem get?_eq_none_of_not_mem {table : Table hash β} {key : String}
    (absent : key ∉ table.names) : table.get? key = none := by
  rw [mem_names] at absent
  exact Option.not_isSome_iff_eq_none.mp absent

/-- Whether a request puts another table in this place. -/
def Request.Replaces (i : ι) : Request ι β → Prop
  | create table _ | copy table _ => table = i
  | _ => False

section Serving

variable [DecidableEq ι]

/-- Binding a new name adds one entry, and the row grows just if that entry is one too many. The
entries that were there are kept. -/
theorem serve_put_new (tables : ι → Table hash β) (i : ι) {key : String} (value : β)
    (absent : key ∉ (tables i).names) :
    let row := (tables i).buckets
    let next := ((serve tables (.put i key value)).2 i).buckets
    next.entries.Perm ((key, value) :: row.entries) ∧ next.size = row.size + 1 ∧
      next.chains.size =
        if next.size = 2 * row.chains.size + 1 then 2 * row.chains.size + 1
        else row.chains.size := by
  intro row next
  have wellFormed : row.WellFormed hash := (tables i).wellFormed
  have unbound : row.get? hash key = none := get?_eq_none_of_not_mem absent
  have inserted : next = row.insert hash key value := by
    simp only [next, serve, put, insert, Function.update_self, row]
  have entries : next.entries.Perm ((key, value) :: row.entries) :=
    inserted ▸ Buckets.entries_insert_perm wellFormed.nonempty value unbound
  have size : next.size = row.size + 1 := by
    rw [((serve tables (.put i key value)).2 i).wellFormed.counted, wellFormed.counted,
      entries.length_eq, List.length_cons]
  refine ⟨entries, size, ?_⟩
  rw [size, inserted, Buckets.size_chains_insert wellFormed]
  simp only [unbound, true_and, Nat.add_right_cancel_iff]

/-- The number of chains stays as it is unless a new name is bound, or another table is put in this
place. -/
theorem size_chains_serve (tables : ι → Table hash β) {request : Request ι β} {i : ι}
    (kept : ¬request.Replaces i) :
    ((serve tables request).2 i).buckets.chains.size = (tables i).buckets.chains.size ∨
      ∃ key value, request = .put i key value ∧ key ∉ (tables i).names := by
  by_cases other : request.table = i
  · subst other
    cases request with
    | create table capacity => exact absurd rfl kept
    | copy table source => exact absurd rfl kept
    | put table key value =>
      by_cases bound : key ∈ (tables table).names
      · refine .inl ?_
        have found : (tables table).buckets.get? hash key ≠ none := by
          rw [mem_names] at bound
          exact Option.isSome_iff_ne_none.mp bound
        simp only [serve, put, insert, Request.table, Function.update_self]
        rw [Buckets.size_chains_insert (tables table).wellFormed, if_neg fun both => found both.1]
      · exact .inr ⟨key, value, rfl, bound⟩
    | remove table key =>
      simp [serve, remove, erase, Request.table, Buckets.size_chains_erase]
    | clear table => simp [serve, clear, Request.table, Buckets.size_chains_clear]
    | get table key => exact .inl rfl
    | contains table key => exact .inl rfl
    | size table => exact .inl rfl
    | isEmpty table => exact .inl rfl
    | names table => exact .inl rfl
  · rw [serve_other tables request other]
    exact .inl rfl

/-- No request makes a row shorter. -/
theorem size_chains_le_serve (tables : ι → Table hash β) {request : Request ι β} {i : ι}
    (kept : ¬request.Replaces i) :
    (tables i).buckets.chains.size ≤ ((serve tables request).2 i).buckets.chains.size := by
  obtain same | ⟨key, value, rfl, absent⟩ := size_chains_serve tables kept
  · exact Nat.le_of_eq same.symm
  · obtain ⟨-, -, chains⟩ := serve_put_new tables i value absent
    rw [chains]
    split <;> omega

/-! ## Any requests -/

/-- No history of requests makes a row shorter, as long as no other table is put in its place. -/
theorem size_chains_le_after (tables : ι → Table hash β) {requests : List (Request ι β)} {i : ι}
    (kept : ∀ request ∈ requests, ¬request.Replaces i) :
    (tables i).buckets.chains.size ≤ (after tables requests i).buckets.chains.size := by
  induction requests generalizing tables with
  | nil => exact Nat.le_refl _
  | cons request rest inductionHypothesis =>
    have first := size_chains_le_serve tables (kept request List.mem_cons_self)
    have later := inductionHypothesis (serve tables request).2
      fun other member => kept other (List.mem_cons_of_mem request member)
    exact Nat.le_trans first later

/-- Tables that start empty, with room for any number of names, are sent any requests. The row under
each of them then has a chain; every entry stands in the chain that the hash of its name selects
among the chains there are; no name occurs twice in the row; the cached size is the number of
entries; and that is at most twice the number of chains. A copy has the row of what it was copied
from. Any other request leaves the number of chains as it is, unless it binds a new name: that adds
one entry to the row and keeps the others, and if that makes `2 n + 1` of them for `n` chains then
there are `2 n + 1` chains afterwards, and else `n` still. So a table's row never gets shorter. -/
theorem rows_keep_their_load (hash : String → Nat) (capacity : ι → Nat)
    (history : List (Request ι β)) (i : ι) :
    let tables := after (fun i => (empty (capacity i) : Table hash β)) history
    let row := (tables i).buckets
    let next (request : Request ι β) := ((serve tables request).2 i).buckets
    0 < row.chains.size ∧
    (∀ place chain, row.chains[place]? = some chain →
      ∀ entry ∈ chain, hash entry.1 % row.chains.size = place) ∧
    (row.entries.map Prod.fst).Nodup ∧
    row.size = row.entries.length ∧
    row.size ≤ 2 * row.chains.size ∧
    (∀ source, next (.copy i source) = (tables source).buckets) ∧
    (∀ request, ¬request.Replaces i → (next request).chains.size = row.chains.size ∨
      ∃ key value, request = .put i key value ∧ key ∉ row.entries.map Prod.fst) ∧
    (∀ key value, key ∉ row.entries.map Prod.fst →
      (next (.put i key value)).entries.Perm ((key, value) :: row.entries) ∧
      (next (.put i key value)).size = row.size + 1 ∧
      (next (.put i key value)).chains.size =
        if (next (.put i key value)).size = 2 * row.chains.size + 1 then 2 * row.chains.size + 1
        else row.chains.size) ∧
    ∀ later : List (Request ι β), (∀ request ∈ later, ¬request.Replaces i) →
      row.chains.size ≤ (after tables later i).buckets.chains.size := by
  intro tables row next
  have wellFormed : row.WellFormed hash := (tables i).wellFormed
  refine ⟨wellFormed.nonempty, wellFormed.placed, (tables i).nodup_names, wellFormed.counted,
    wellFormed.loaded, ?_, ?_, ?_, ?_⟩
  · intro source
    simp only [next, serve, Function.update_self]
  · intro request kept
    exact size_chains_serve tables kept
  · intro key value absent
    exact serve_put_new tables i value absent
  · intro later kept
    exact size_chains_le_after tables kept

end Serving

/-- A table without room of its own, all of whose names collide, gets a third name. -/
theorem rows_keep_their_load_third_name :
    let tables := after (fun _ => (empty 0 : Table (fun _ => 7) Nat))
      [.put () "a" 1, .put () "b" 2, .put () "a" 3]
    let row := (tables ()).buckets
    let grown := ((serve tables (.put () "c" 4)).2 ()).buckets
    row.chains.size = 1 ∧ row.size = 2 ∧ "c" ∉ row.entries.map Prod.fst ∧
      grown.entries.Perm (("c", 4) :: row.entries) ∧ grown.chains.size = 3 ∧
      (∀ request ∈ [Request.put () "c" 4, .clear ()], ¬request.Replaces ()) ∧
      1 ≤ (after tables [.put () "c" 4, .clear ()] ()).buckets.chains.size := by
  intro tables row grown
  obtain ⟨-, -, -, -, -, -, -, put, never⟩ := rows_keep_their_load (fun _ => 7) (fun _ : Unit => 0)
    [.put () "a" 1, .put () "b" 2, .put () "a" (3 : Nat)] ()
  have chains : row.chains.size = 1 := by decide
  have size : row.size = 2 := by decide
  have absent : "c" ∉ row.entries.map Prod.fst := by decide
  have kept : ∀ request ∈ [Request.put () "c" 4, .clear ()], ¬request.Replaces () := by
    simp [Request.Replaces]
  obtain ⟨entries, more, longer⟩ := put "c" 4 absent
  refine ⟨chains, size, absent, entries, ?_, kept, chains ▸ never _ kept⟩
  have three : grown.size = 2 * row.chains.size + 1 := by
    rw [chains]
    exact more.trans (congrArg (· + 1) size)
  rw [show grown.chains.size = _ from longer, if_pos three, chains]

end Table

end SlotLang
