/-!
# Chained buckets

Storage for a finite map from names: a row of chains, where an entry sits in the chain that the
hash of its name selects. A row that holds more than two entries per chain is replaced by one
about twice as long.

The hash is a parameter of every operation and nothing is assumed of it. What makes a row
trustworthy is `WellFormed`; this file shows that every operation keeps it, and `Table` then
carries it along with the row.
-/

namespace SlotLang

/-- A row of chains and the number of entries in it. -/
structure Buckets (β : Type) where
  /-- The chains. -/
  chains : Array (List (String × β))
  /-- How many entries the chains hold together. -/
  size : Nat

namespace Buckets

variable {β : Type}

/-! ## One chain -/

/-- Bind `key` in a chain: in place of the entry it has, else in a new entry at the end. -/
def putEntry (key : String) (value : β) : List (String × β) → List (String × β)
  | [] => [(key, value)]
  | entry :: rest =>
    if entry.1 = key then (key, value) :: rest else entry :: putEntry key value rest

/-- Entries with the last of them moved to the front. -/
def lastToFront : List (String × β) → List (String × β)
  | [] => []
  | first :: rest =>
    (first :: rest).getLast (List.cons_ne_nil first rest) :: (first :: rest).dropLast

/-- A chain without the entry of `key`: the last entry of the chain moves to the place that becomes
free, and no other entry moves. -/
def dropEntry (key : String) : List (String × β) → List (String × β)
  | [] => []
  | entry :: rest => if entry.1 = key then lastToFront rest else entry :: dropEntry key rest

/-! ## The row -/

/-- A row of empty chains, never without a chain. -/
def empty (capacity : Nat) : Buckets β :=
  ⟨Array.replicate (max capacity 1) [], 0⟩

/-- The place of the chain that a name belongs to. -/
def place (hash : String → Nat) (b : Buckets β) (key : String) : Nat :=
  hash key % b.chains.size

/-- The chain that a name belongs to. -/
def chain (hash : String → Nat) (b : Buckets β) (key : String) : List (String × β) :=
  b.chains.getD (b.place hash key) []

/-- The value bound to a name. -/
def get? (hash : String → Nat) (b : Buckets β) (key : String) : Option β :=
  (b.chain hash key).lookup key

/-- All entries, chain after chain. -/
def entries (b : Buckets β) : List (String × β) :=
  b.chains.toList.flatten

/-- Add an entry at the end of the chain it belongs to. -/
def scatter (hash : String → Nat) (chains : Array (List (String × β))) (entry : String × β) :
    Array (List (String × β)) :=
  chains.modify (hash entry.1 % chains.size) (· ++ [entry])

/-- Move every entry to a row of `2 n + 1` chains, where `n` is the number of chains now. -/
def grow (hash : String → Nat) (b : Buckets β) : Buckets β :=
  ⟨b.entries.foldl (scatter hash) (Array.replicate (2 * b.chains.size + 1) []), b.size⟩

/-- The row after its chain for `key` binds it to `value`, before any growth. -/
def store (hash : String → Nat) (b : Buckets β) (key : String) (value : β) : Buckets β :=
  let size := if (b.get? hash key).isSome then b.size else b.size + 1
  ⟨b.chains.modify (b.place hash key) (putEntry key value), size⟩

/-- Bind `key` to `value`. A new name adds an entry, and the row grows if it then holds more than
two entries per chain; what an old name is bound to is replaced and the row stays. -/
def insert (hash : String → Nat) (b : Buckets β) (key : String) (value : β) : Buckets β :=
  let stored := b.store hash key value
  if (b.get? hash key).isNone ∧ 2 * stored.chains.size < stored.size then stored.grow hash
  else stored

/-- Forget a name. -/
def erase (hash : String → Nat) (b : Buckets β) (key : String) : Buckets β :=
  if (b.get? hash key).isSome then
    ⟨b.chains.modify (b.place hash key) (dropEntry key), b.size - 1⟩
  else b

/-- Forget every name; the chains stay, empty. -/
def clear (b : Buckets β) : Buckets β :=
  ⟨b.chains.map fun _ => [], 0⟩

/-- Every entry sits in the chain that its name's hash selects. -/
def Placed (hash : String → Nat) (chains : Array (List (String × β))) : Prop :=
  ∀ (i : Nat) (chain : List (String × β)), chains[i]? = some chain →
    ∀ entry ∈ chain, hash entry.1 % chains.size = i

/-- No chain binds a name twice. -/
def Distinct (chains : Array (List (String × β))) : Prop :=
  ∀ (i : Nat) (chain : List (String × β)), chains[i]? = some chain → (chain.map Prod.fst).Nodup

/-- What every row reached through the operations satisfies. -/
structure WellFormed (hash : String → Nat) (b : Buckets β) : Prop where
  /-- There is a chain for every name. -/
  nonempty : 0 < b.chains.size
  /-- Every entry sits in the chain that its name's hash selects. -/
  placed : Placed hash b.chains
  /-- No chain binds a name twice. -/
  distinct : Distinct b.chains
  /-- The cached size is the number of entries. -/
  counted : b.size = b.entries.length
  /-- There are at most two entries per chain. -/
  loaded : b.size ≤ 2 * b.chains.size

/-! ## Chains keep their shape -/

/-- After a name is bound in a chain, its entries are the new one and otherwise entries that it
had. -/
theorem mem_putEntry {key : String} {value : β} {chain : List (String × β)}
    {entry : String × β} (member : entry ∈ putEntry key value chain) :
    entry = (key, value) ∨ entry ∈ chain := by
  induction chain with
  | nil => simpa [putEntry] using member
  | cons first rest inductionHypothesis =>
    simp only [putEntry] at member
    split at member
    · rcases List.mem_cons.mp member with same | inside
      · exact .inl same
      · exact .inr (List.mem_cons_of_mem _ inside)
    · rcases List.mem_cons.mp member with same | inside
      · exact .inr (same ▸ List.mem_cons_self)
      · rcases inductionHypothesis inside with same | inside
        · exact .inl same
        · exact .inr (List.mem_cons_of_mem _ inside)

/-- A chain goes on binding no name twice: the new entry replaces the old one of its name, or is
added where there is none. -/
theorem nodup_putEntry {key : String} {value : β} {chain : List (String × β)}
    (distinct : (chain.map Prod.fst).Nodup) :
    ((putEntry key value chain).map Prod.fst).Nodup := by
  induction chain with
  | nil => simp [putEntry]
  | cons first rest inductionHypothesis =>
    simp only [List.map_cons, List.nodup_cons] at distinct
    simp only [putEntry]
    split
    · next same => simpa [← same] using distinct
    · next different =>
      simp only [List.map_cons, List.nodup_cons]
      refine ⟨?_, inductionHypothesis distinct.2⟩
      intro again
      obtain ⟨entry, inside, sameName⟩ := List.mem_map.mp again
      rcases mem_putEntry inside with same | old
      · exact different (by rw [← sameName, same])
      · exact distinct.1 (List.mem_map.mpr ⟨entry, old, sameName⟩)

/-- Binding a name makes a chain longer only if the chain does not bind it yet. -/
theorem length_putEntry (key : String) (value : β) (chain : List (String × β)) :
    (putEntry key value chain).length =
      if (chain.lookup key).isSome then chain.length else chain.length + 1 := by
  induction chain with
  | nil => simp [putEntry]
  | cons first rest inductionHypothesis =>
    obtain ⟨name, old⟩ := first
    by_cases same : name = key
    · simp [putEntry, same]
    · have different : (key == name) = false := beq_eq_false_iff_ne.mpr (Ne.symm same)
      simp only [putEntry, same, if_false, List.lookup_cons, different, List.length_cons,
        inductionHypothesis]
      split <;> rfl

/-- Moving the last entry to the front neither loses an entry nor adds one. -/
theorem lastToFront_perm (chain : List (String × β)) : (lastToFront chain).Perm chain := by
  cases chain with
  | nil => exact .refl []
  | cons first rest =>
    have split := List.dropLast_concat_getLast (List.cons_ne_nil first rest)
    have moved := List.perm_append_singleton ((first :: rest).getLast (List.cons_ne_nil first rest))
      (first :: rest).dropLast
    rw [split] at moved
    exact moved.symm

/-- But for their order, the entries left are those of the chain without the first one of the name.
What a chain keeps when an entry is dropped is proved through this, since the order does change. -/
theorem dropEntry_perm (key : String) (chain : List (String × β)) :
    (dropEntry key chain).Perm (chain.eraseP (·.1 = key)) := by
  induction chain with
  | nil => exact .refl []
  | cons first rest inductionHypothesis =>
    rw [dropEntry]
    split
    · next same =>
      rw [List.eraseP_cons_of_pos (by simpa using same)]
      exact lastToFront_perm rest
    · next different =>
      rw [List.eraseP_cons_of_neg (by simpa using different)]
      exact inductionHypothesis.cons first

/-- The last entry takes the place of the dropped one, so the entries in between stay in order. -/
example : dropEntry "b" [("a", 1), ("b", 2), ("c", 3), ("d", 4)] = [("a", 1), ("d", 4), ("c", 3)] :=
  rfl

/-- Dropping a name brings no entry into a chain. -/
theorem mem_of_mem_dropEntry {key : String} {chain : List (String × β)} {entry : String × β}
    (member : entry ∈ dropEntry key chain) : entry ∈ chain :=
  List.mem_of_mem_eraseP ((dropEntry_perm key chain).mem_iff.mp member)

/-- A chain that binds no name twice still does not once a name is dropped: its names are, in some
order, names that it had. -/
theorem nodup_dropEntry {chain : List (String × β)} (distinct : (chain.map Prod.fst).Nodup)
    (key : String) : ((dropEntry key chain).map Prod.fst).Nodup := by
  have sameNames := (dropEntry_perm key chain).map Prod.fst
  have fewer : (chain.eraseP (·.1 = key)).Sublist chain := List.eraseP_sublist
  exact sameNames.nodup_iff.mpr (distinct.sublist (fewer.map Prod.fst))

/-- Dropping a name that a chain binds makes it shorter by one entry. -/
theorem length_dropEntry {key : String} {chain : List (String × β)}
    (bound : (chain.lookup key).isSome) :
    (dropEntry key chain).length + 1 = chain.length := by
  induction chain with
  | nil => simp at bound
  | cons first rest inductionHypothesis =>
    obtain ⟨name, old⟩ := first
    by_cases same : name = key
    · simp [dropEntry, same, (lastToFront_perm rest).length_eq]
    · have different : (key == name) = false := beq_eq_false_iff_ne.mpr (Ne.symm same)
      simp only [List.lookup_cons, different] at bound
      simp [dropEntry, same, inductionHypothesis bound]

/-! ## Rows keep their shape -/

/-- Changing one chain changes the number of entries by as much as that chain changes. -/
theorem length_flatten_modify {α : Type} (row : List (List α)) (i : Nat) (f : List α → List α)
    {chain : List α} (found : row[i]? = some chain) :
    (row.modify i f).flatten.length + chain.length = row.flatten.length + (f chain).length := by
  induction row generalizing i with
  | nil => simp at found
  | cons first rest inductionHypothesis =>
    cases i with
    | zero =>
      simp only [List.getElem?_cons_zero, Option.some.injEq] at found
      simp [found]; omega
    | succ i =>
      simp only [List.getElem?_cons_succ] at found
      have shorter := inductionHypothesis i found
      simp only [List.modify_succ_cons, List.flatten_cons, List.length_append]
      omega

/-- Adding an entry to one chain adds it to the entries. -/
theorem flatten_modify_perm {α : Type} {row : List (List α)} {i : Nat} {chain : List α}
    {change : List α → List α} {entry : α} (found : row[i]? = some chain)
    (added : (change chain).Perm (entry :: chain)) :
    (row.modify i change).flatten.Perm (entry :: row.flatten) := by
  induction row generalizing i with
  | nil => simp at found
  | cons first rest inductionHypothesis =>
    cases i with
    | zero =>
      rw [List.getElem?_cons_zero, Option.some.injEq] at found
      subst found
      exact added.append_right rest.flatten
    | succ i =>
      rw [List.getElem?_cons_succ] at found
      simp only [List.modify_succ_cons, List.flatten_cons]
      exact ((inductionHypothesis found).append_left first).trans List.perm_middle

/-- In a well-formed row the chain of a name is one of the row's chains. -/
theorem getElem?_place (hash : String → Nat) {b : Buckets β} (nonempty : 0 < b.chains.size)
    (key : String) : b.chains[b.place hash key]? = some (b.chain hash key) := by
  have inside : b.place hash key < b.chains.size := Nat.mod_lt _ nonempty
  simp [chain, Array.getD, inside]

/-- So it is in the list of chains, by which entries are counted. -/
theorem toList_getElem?_place (hash : String → Nat) {b : Buckets β} (nonempty : 0 < b.chains.size)
    (key : String) : b.chains.toList[b.place hash key]? = some (b.chain hash key) := by
  simpa using getElem?_place hash nonempty key

/-- A chain of a row in which one chain was changed is the changed one or one of the old. -/
theorem getElem?_modify_cases {α : Type} {row : Array α} {i j : Nat} {f : α → α} {x : α}
    (found : (row.modify i f)[j]? = some x) :
    (i = j ∧ ∃ old, row[i]? = some old ∧ x = f old) ∨ row[j]? = some x := by
  rw [Array.getElem?_modify] at found
  by_cases same : i = j
  · subst same
    simp only [if_true, Option.map_eq_some_iff] at found
    obtain ⟨old, present, rfl⟩ := found
    exact .inl ⟨rfl, old, present, rfl⟩
  · simp only [same, if_false] at found
    exact .inr found

/-- Entries stay in their places when one chain is changed, if the entries of the changed chain
belong there. The number of chains stays the same, and with it every place. -/
theorem placed_modify {hash : String → Nat} {chains : Array (List (String × β))}
    (placed : Placed hash chains) {i : Nat} {f : List (String × β) → List (String × β)}
    (inPlace : ∀ old, chains[i]? = some old → ∀ entry ∈ f old, hash entry.1 % chains.size = i) :
    Placed hash (chains.modify i f) := by
  intro j chain found entry member
  rw [Array.size_modify]
  rcases getElem?_modify_cases found with ⟨same, old, present, rfl⟩ | present
  · exact same ▸ inPlace old present entry member
  · exact placed j chain present entry member

/-- No chain binds a name twice after one chain is changed, if the changed one does not. -/
theorem distinct_modify {chains : Array (List (String × β))} (distinct : Distinct chains)
    {i : Nat} {f : List (String × β) → List (String × β)}
    (separate : ∀ old, chains[i]? = some old → ((f old).map Prod.fst).Nodup) :
    Distinct (chains.modify i f) := by
  intro j chain found
  rcases getElem?_modify_cases found with ⟨_, old, present, rfl⟩ | present
  · exact separate old present
  · exact distinct j chain present

/-- Empty chains have no entry that could be in a wrong place. -/
theorem placed_replicate (hash : String → Nat) (n : Nat) :
    Placed hash (Array.replicate n ([] : List (String × β))) := by
  intro i chain found entry member
  rw [Array.getElem?_replicate] at found
  split at found <;> simp_all

/-- Nor do they bind a name twice. -/
theorem distinct_replicate (n : Nat) :
    Distinct (Array.replicate n ([] : List (String × β))) := by
  intro i chain found
  rw [Array.getElem?_replicate] at found
  split at found <;> simp_all

/-- A new row is well-formed whatever capacity is asked for: it has one chain at least, so that
every name has a place. -/
theorem wellFormed_empty (hash : String → Nat) (capacity : Nat) :
    (empty capacity : Buckets β).WellFormed hash where
  nonempty := by simp only [empty, Array.size_replicate]; omega
  placed := placed_replicate hash _
  distinct := distinct_replicate _
  counted := by simp [empty, entries]
  loaded := by simp [empty]

/-- Forgetting all names keeps a row well-formed. Its chains stay, so no place changes. -/
theorem wellFormed_clear {hash : String → Nat} {b : Buckets β} (wellFormed : b.WellFormed hash) :
    b.clear.WellFormed hash where
  nonempty := by simpa [clear] using wellFormed.nonempty
  placed := by
    intro i chain found entry member
    simp only [clear, Array.getElem?_map, Option.map_eq_some_iff] at found
    obtain ⟨_, _, rfl⟩ := found
    simp at member
  distinct := by
    intro i chain found
    simp only [clear, Array.getElem?_map, Option.map_eq_some_iff] at found
    obtain ⟨_, _, rfl⟩ := found
    simp
  counted := by
    have noEntries : b.clear.entries = [] := by
      rw [entries, List.flatten_eq_nil_iff]
      intro chain among
      simp only [clear, Array.toList_map, List.mem_map] at among
      obtain ⟨_, _, rfl⟩ := among
      rfl
    rw [noEntries]
    rfl
  loaded := by simp [clear]

section Storing

variable {hash : String → Nat} {b : Buckets β}

/-! ### Storing -/

/-- Storing leaves the number of chains as it is, and so the places of all names. -/
theorem size_chains_store (hash : String → Nat) (b : Buckets β) (key : String) (value : β) :
    (b.store hash key value).chains.size = b.chains.size :=
  Array.size_modify

/-- The entry that is stored is put in the chain that its name selects, and the others stay where
they are. -/
theorem placed_store (placed : Placed hash b.chains) (key : String) (value : β) :
    Placed hash (b.store hash key value).chains := by
  apply placed_modify placed
  intro chain found entry member
  rcases mem_putEntry member with rfl | inside
  · rfl
  · exact placed _ chain found entry inside

/-- No chain binds a name twice after an entry is stored, whether the name is new or old. -/
theorem distinct_store (distinct : Distinct b.chains) (key : String) (value : β) :
    Distinct (b.store hash key value).chains :=
  distinct_modify distinct fun chain found => nodup_putEntry (distinct _ chain found)

/-- The cached size counts the new name, if it is new. -/
theorem size_store (hash : String → Nat) (b : Buckets β) (key : String) (value : β) :
    (b.store hash key value).size =
      if (b.get? hash key).isSome then b.size else b.size + 1 :=
  rfl

/-- A new name makes one entry more, and an old one none. -/
theorem length_entries_store (nonempty : 0 < b.chains.size) (key : String) (value : β) :
    (b.store hash key value).entries.length =
      if (b.get? hash key).isSome then b.entries.length else b.entries.length + 1 := by
  have changed := length_flatten_modify b.chains.toList (b.place hash key) (putEntry key value)
    (toList_getElem?_place hash nonempty key)
  rw [length_putEntry] at changed
  rw [entries, store, Array.toList_modify, get?, entries]
  split at changed
  · next old =>
    rw [if_pos old]
    omega
  · next new =>
    rw [if_neg new]
    omega

end Storing

/-- No name is bound twice in the whole row: two entries of one name would share a chain. -/
theorem nodup_entries {hash : String → Nat} {b : Buckets β} (placed : Placed hash b.chains)
    (distinct : Distinct b.chains) : (b.entries.map Prod.fst).Nodup := by
  rw [entries, List.map_flatten, List.Nodup, List.pairwise_flatten]
  constructor
  · intro names member
    obtain ⟨chain, inside, rfl⟩ := List.mem_map.mp member
    obtain ⟨i, found⟩ := List.mem_iff_getElem?.mp inside
    exact distinct i chain (by simpa using found)
  · rw [List.pairwise_map, List.pairwise_iff_getElem]
    intro i j leftBound rightBound before name inLeft other inRight same
    obtain ⟨left, leftMember, rfl⟩ := List.mem_map.mp inLeft
    obtain ⟨right, rightMember, rfl⟩ := List.mem_map.mp inRight
    have leftPlace := placed i _ (by simp_all) left leftMember
    have rightPlace := placed j _ (by simp_all) right rightMember
    rw [same] at leftPlace
    omega

section Growing

variable {hash : String → Nat} {chains : Array (List (String × β))}

/-! ### Scattering one entry -/

/-- Scattering leaves the number of chains as it is. -/
theorem size_scatter {entry : String × β} : (scatter hash chains entry).size = chains.size :=
  Array.size_modify

/-- The entry comes to those that the chains hold. -/
theorem scatter_perm (hash : String → Nat) (nonempty : 0 < chains.size) (entry : String × β) :
    (scatter hash chains entry).toList.flatten.Perm (entry :: chains.toList.flatten) := by
  have inside : hash entry.1 % chains.size < chains.toList.length := by
    simpa using Nat.mod_lt _ nonempty
  rw [scatter, Array.toList_modify]
  exact flatten_modify_perm (List.getElem?_eq_getElem inside) (List.perm_append_singleton entry _)

/-- An entry is scattered to the chain that its name selects among the chains of the new row. -/
theorem placed_scatter (placed : Placed hash chains) (entry : String × β) :
    Placed hash (scatter hash chains entry) := by
  apply placed_modify placed
  intro chain found other member
  rcases List.mem_append.mp member with inside | added
  · exact placed _ chain found other inside
  · rw [List.mem_singleton.mp added]

/-- A name that no chain binds can be added to one of them. The names must be new to all chains,
since it is not known here which of them the entry belongs to. -/
theorem distinct_scatter (distinct : Distinct chains) {entry : String × β}
    (fresh : ∀ other ∈ chains.toList.flatten, other.1 ≠ entry.1) :
    Distinct (scatter hash chains entry) := by
  apply distinct_modify distinct
  intro chain found
  -- The entry comes last, but the names are distinct in any order.
  rw [((List.perm_append_singleton entry chain).map Prod.fst).nodup_iff, List.map_cons,
    List.nodup_cons]
  refine ⟨fun again => ?_, distinct _ chain found⟩
  obtain ⟨other, inside, sameName⟩ := List.mem_map.mp again
  have inRow : chain ∈ chains.toList := List.mem_of_getElem? (by simpa using found)
  exact fresh other (List.mem_flatten.mpr ⟨chain, inRow, inside⟩) sameName

/-! ### Growing -/

/-- However many entries are scattered, the number of chains stays. -/
theorem size_foldl_scatter (hash : String → Nat) (added : List (String × β))
    (chains : Array (List (String × β))) :
    (added.foldl (scatter hash) chains).size = chains.size := by
  induction added generalizing chains with
  | nil => rfl
  | cons entry rest inductionHypothesis => rw [List.foldl_cons, inductionHypothesis, size_scatter]

/-- Scattering moves the entries to other chains; none is lost and none is added. -/
theorem foldl_scatter_perm (hash : String → Nat) (added : List (String × β))
    (chains : Array (List (String × β))) (nonempty : 0 < chains.size) :
    (added.foldl (scatter hash) chains).toList.flatten.Perm
      (added ++ chains.toList.flatten) := by
  induction added generalizing chains with
  | nil => simp
  | cons entry rest inductionHypothesis =>
    have nonemptyAfter : 0 < (scatter hash chains entry).size := by rwa [size_scatter]
    have one := scatter_perm hash nonempty entry
    have later := inductionHypothesis (scatter hash chains entry) nonemptyAfter
    exact later.trans ((one.append_left rest).trans List.perm_middle)

/-- And all of them are put in their places, by induction over the entries. -/
theorem placed_foldl_scatter (added : List (String × β)) (placed : Placed hash chains) :
    Placed hash (added.foldl (scatter hash) chains) := by
  induction added generalizing chains with
  | nil => exact placed
  | cons entry rest inductionHypothesis => exact inductionHypothesis (placed_scatter placed entry)

/-- Entries of pairwise different names, none of which is in a chain yet. -/
theorem distinct_foldl_scatter {added : List (String × β)} (nonempty : 0 < chains.size)
    (distinct : Distinct chains) (separate : (added.map Prod.fst).Nodup)
    (fresh : ∀ entry ∈ chains.toList.flatten, entry.1 ∉ added.map Prod.fst) :
    Distinct (added.foldl (scatter hash) chains) := by
  induction added generalizing chains with
  | nil => exact distinct
  | cons entry rest inductionHypothesis =>
    rw [List.map_cons, List.nodup_cons] at separate
    have nonemptyAfter : 0 < (scatter hash chains entry).size := by rwa [size_scatter]
    apply inductionHypothesis nonemptyAfter _ separate.2
    · intro other among again
      rcases List.mem_cons.mp ((scatter_perm hash nonempty entry).mem_iff.mp among) with rfl | old
      · exact separate.1 again
      · exact fresh other old (List.mem_cons_of_mem _ again)
    · refine distinct_scatter distinct fun other old sameName => ?_
      exact fresh other old (by simp [sameName])

/-- A row of `n` chains grows to one of `2 n + 1`. -/
theorem size_chains_grow (hash : String → Nat) (b : Buckets β) :
    (b.grow hash).chains.size = 2 * b.chains.size + 1 := by
  rw [grow, size_foldl_scatter, Array.size_replicate]

/-- Growing keeps the entries. -/
theorem entries_grow_perm (hash : String → Nat) (b : Buckets β) :
    (b.grow hash).entries.Perm b.entries := by
  have moved := foldl_scatter_perm hash b.entries (Array.replicate (2 * b.chains.size + 1) [])
    (by simp)
  simpa [grow, entries] using moved

/-- In the longer row every entry has its place by the new number of chains; where it was before
does not matter. -/
theorem placed_grow (b : Buckets β) : Placed hash (b.grow hash).chains :=
  placed_foldl_scatter b.entries (placed_replicate hash _)

/-- The longer row binds no name twice if the row had none twice in all its chains together. That no
single chain had one twice would not be enough, since entries of several chains may now meet in
one. -/
theorem distinct_grow {b : Buckets β} (separate : (b.entries.map Prod.fst).Nodup) :
    Distinct (b.grow hash).chains :=
  distinct_foldl_scatter (by simp) (distinct_replicate _) separate (by simp)

end Growing

/-! ## Well-formed rows -/

/-- Binding a name keeps a row well-formed. With one entry too many for its chains the row grows,
and `2 n + 1` chains can take the `2 n + 1` entries that `n` chains could not. An old name makes no
entry more, so that the row holds no more than before. -/
theorem wellFormed_insert {hash : String → Nat} {b : Buckets β} (wellFormed : b.WellFormed hash)
    (key : String) (value : β) : (b.insert hash key value).WellFormed hash := by
  have placed := placed_store wellFormed.placed key value
  have distinct : Distinct (b.store hash key value).chains :=
    distinct_store wellFormed.distinct key value
  have counted : (b.store hash key value).size = (b.store hash key value).entries.length := by
    rw [size_store, length_entries_store wellFormed.nonempty, wellFormed.counted]
  rw [insert]
  split
  · have chains := size_chains_grow hash (b.store hash key value)
    have sameEntries := (entries_grow_perm hash (b.store hash key value)).length_eq
    have sameSize : ((b.store hash key value).grow hash).size = (b.store hash key value).size := rfl
    have oneMore : (b.store hash key value).size ≤ b.size + 1 := by
      rw [size_store]
      split <;> omega
    have chainsStored := size_chains_store hash b key value
    have loaded := wellFormed.loaded
    exact
      { nonempty := by omega
        placed := placed_grow _
        distinct := distinct_grow (nodup_entries placed distinct)
        counted := by omega
        loaded := by omega }
  · next within =>
    have sameChains := size_chains_store hash b key value
    have nonempty : 0 < (b.store hash key value).chains.size := sameChains ▸ wellFormed.nonempty
    have loaded : (b.store hash key value).size ≤ 2 * (b.store hash key value).chains.size := by
      cases bound : b.get? hash key with
      | none => simpa [bound] using within
      | some old =>
        rw [size_store, bound, sameChains]
        exact wellFormed.loaded
    exact ⟨nonempty, placed, distinct, counted, loaded⟩

/-- Forgetting a name keeps a row well-formed. The entries that are left change their order in one
chain but stay in it, and the cached size follows their number. -/
theorem wellFormed_erase {hash : String → Nat} {b : Buckets β} (wellFormed : b.WellFormed hash)
    (key : String) : (b.erase hash key).WellFormed hash := by
  simp only [erase]
  split
  · next bound =>
    have changed := length_flatten_modify b.chains.toList (b.place hash key) (dropEntry key)
      (toList_getElem?_place hash wellFormed.nonempty key)
    have shorter : (dropEntry key (b.chain hash key)).length + 1 = (b.chain hash key).length :=
      length_dropEntry bound
    have counted := wellFormed.counted
    have loaded := wellFormed.loaded
    refine ⟨by simpa using wellFormed.nonempty, ?_, ?_, ?_, ?_⟩
    · exact placed_modify wellFormed.placed fun old present entry member =>
        wellFormed.placed _ old present entry (mem_of_mem_dropEntry member)
    · exact distinct_modify wellFormed.distinct fun old present =>
        nodup_dropEntry (wellFormed.distinct _ old present) key
    · simp only [entries, Array.toList_modify] at *
      omega
    · simp only [Array.size_modify]
      omega
  · exact wellFormed

end Buckets

end SlotLang
