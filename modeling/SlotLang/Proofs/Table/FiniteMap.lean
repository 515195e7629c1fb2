import SlotLang.Proofs.Table.Lookup
import Mathlib.Data.Finmap
import Mathlib.Data.List.Forall2

/-!
# Tables are finite maps

A host may keep any number of tables and send them any sequence of requests. The answers are those
of finite maps: whatever the hash, whatever number of buckets a table starts with, and however often
it grew on the way. The order in which names are listed is the one thing a finite map does not fix,
so a listing is compared as a set, and apart from that no name may be listed twice.

A copied table is a table of its own. What is done to one of the two afterwards is not seen in any
answer of the other.
-/

namespace SlotLang.Table

variable {hash : String → Nat} {ι β : Type}

/-! ## Requests and answers -/

/-- A request to one of the tables that `ι` names. -/
inductive Request (ι β : Type) where
  /-- Put an empty table in this place. -/
  | create (table : ι) (capacity : Nat)
  /-- Put a copy of another table in this place. -/
  | copy (table source : ι)
  /-- Bind a name and tell what it was bound to. -/
  | put (table : ι) (key : String) (value : β)
  /-- Forget a name and tell what it was bound to. -/
  | remove (table : ι) (key : String)
  /-- Forget every name. -/
  | clear (table : ι)
  /-- Tell what a name is bound to. -/
  | get (table : ι) (key : String)
  /-- Tell whether a name is bound. -/
  | contains (table : ι) (key : String)
  /-- Tell how many names are bound. -/
  | size (table : ι)
  /-- Tell whether no name is bound. -/
  | isEmpty (table : ι)
  /-- List the bound names. -/
  | names (table : ι)

/-- The table that a request may change. A request that only asks for something names the table that
it asks. -/
def Request.table : Request ι β → ι
  | create table _ | copy table _ | put table _ _ | remove table _ | clear table
  | get table _ | contains table _ | size table | isEmpty table | names table => table

/-- The tables that a request changes or looks at. Only a copy concerns more than one. -/
def Request.concerned : Request ι β → List ι
  | copy table source => [table, source]
  | request => [request.table]

/-- An answer to a request. `Names` is how the bound names are told. -/
inductive Answer (β Names : Type) where
  /-- The request asks for nothing. -/
  | done
  /-- What a name is or was bound to. -/
  | binding (value : Option β)
  /-- Whether something holds. -/
  | truth (holds : Bool)
  /-- How many. -/
  | count (number : Nat)
  /-- The bound names. -/
  | names (listing : Names)

section Serving

variable [DecidableEq ι]

/-- Serve one request with tables. Other tables than the one it names are handed back as they
are. -/
def serve (tables : ι → Table hash β) :
    Request ι β → Answer β (List String) × (ι → Table hash β)
  | .create i capacity => (.done, Function.update tables i (empty capacity))
  | .copy i source => (.done, Function.update tables i (tables source))
  | .put i key value =>
    (.binding ((tables i).put key value).1,
      Function.update tables i ((tables i).put key value).2)
  | .remove i key =>
    (.binding ((tables i).remove key).1, Function.update tables i ((tables i).remove key).2)
  | .clear i => (.done, Function.update tables i (tables i).clear)
  | .get i key => (.binding ((tables i).get? key), tables)
  | .contains i key => (.truth ((tables i).contains key), tables)
  | .size i => (.count (tables i).size, tables)
  | .isEmpty i => (.truth (tables i).isEmpty, tables)
  | .names i => (.names (tables i).names, tables)

/-- A finite map from names, which has no storage and lists nothing in any order. -/
abbrev NameMap (β : Type) := Finmap fun _ : String => β

/-- Serve one request with finite maps. The capacity of a new table has no meaning here. -/
def serveMaps (maps : ι → NameMap β) :
    Request ι β → Answer β (Finset String) × (ι → NameMap β)
  | .create i _ => (.done, Function.update maps i ∅)
  | .copy i source => (.done, Function.update maps i (maps source))
  | .put i key value =>
    (.binding ((maps i).lookup key), Function.update maps i ((maps i).insert key value))
  | .remove i key =>
    (.binding ((maps i).lookup key), Function.update maps i ((maps i).erase key))
  | .clear i => (.done, Function.update maps i ∅)
  | .get i key => (.binding ((maps i).lookup key), maps)
  | .contains i key => (.truth (key ∈ maps i), maps)
  | .size i => (.count (maps i).keys.card, maps)
  | .isEmpty i => (.truth ((maps i).keys = ∅), maps)
  | .names i => (.names (maps i).keys, maps)

/-- The tables after requests. -/
def after (tables : ι → Table hash β) : List (Request ι β) → ι → Table hash β
  | [] => tables
  | request :: rest => after (serve tables request).2 rest

/-- The answers to requests, in order. -/
def answers (tables : ι → Table hash β) : List (Request ι β) → List (Answer β (List String))
  | [] => []
  | request :: rest => (serve tables request).1 :: answers (serve tables request).2 rest

/-- The answers of finite maps to requests, in order. -/
def mapAnswers (maps : ι → NameMap β) : List (Request ι β) → List (Answer β (Finset String))
  | [] => []
  | request :: rest =>
    (serveMaps maps request).1 :: mapAnswers (serveMaps maps request).2 rest

end Serving

/-- An answer of a table and one of a finite map say the same: listings hold the same names, each
of them once, and all other answers are equal. -/
def Answer.Agrees : Answer β (List String) → Answer β (Finset String) → Prop
  | done, done => True
  | binding value, binding expected => value = expected
  | truth holds, truth expected => holds = expected
  | count number, count expected => number = expected
  | names listing, names expected => listing.Nodup ∧ listing.toFinset = expected
  | _, _ => False

/-! ## One table and one map -/

/-- A table stands for the map with the same look-ups. Neither its chains nor the order of its names
have a part in this. -/
def Represents (table : Table hash β) (map : NameMap β) : Prop :=
  ∀ key, table.get? key = map.lookup key

/-- A new table stands for the empty map, whatever its capacity. -/
theorem represents_empty (capacity : Nat) :
    Represents (empty capacity : Table hash β) ∅ := by
  intro key
  rw [get?_empty, Finmap.lookup_empty]

/-- So does a table that was cleared, whatever it held before. -/
theorem represents_clear (table : Table hash β) : Represents table.clear ∅ := by
  intro key
  rw [get?_clear, Finmap.lookup_empty]

/-- Binding a name in a table is binding it in the map. -/
theorem represents_insert {table : Table hash β} {map : NameMap β}
    (represents : Represents table map) (key : String) (value : β) :
    Represents (table.insert key value) (map.insert key value) := by
  intro tested
  rw [get?_insert]
  by_cases same : tested = key
  · subst same
    rw [if_pos rfl, Finmap.lookup_insert]
  · rw [if_neg same, Finmap.lookup_insert_of_ne map same, represents]

/-- Forgetting a name is erasing it, also where it is not bound. -/
theorem represents_erase {table : Table hash β} {map : NameMap β}
    (represents : Represents table map) (key : String) :
    Represents (table.erase key) (map.erase key) := by
  intro tested
  rw [get?_erase]
  by_cases same : tested = key
  · subst same
    rw [if_pos rfl, Finmap.lookup_erase]
  · rw [if_neg same, Finmap.lookup_erase_ne same, represents]

/-- Whether a name is bound is whether it is a key of the map. -/
theorem contains_of_represents {table : Table hash β} {map : NameMap β}
    (represents : Represents table map) (key : String) :
    table.contains key = decide (key ∈ map) := by
  rw [contains, represents, Bool.eq_iff_iff, decide_eq_true_iff]
  exact Finmap.lookup_isSome

/-- The names listed are the keys of the map. -/
theorem toFinset_names_of_represents {table : Table hash β} {map : NameMap β}
    (represents : Represents table map) : table.names.toFinset = map.keys := by
  ext name
  rw [List.mem_toFinset, mem_names, represents, Finmap.mem_keys]
  exact Finmap.lookup_isSome

/-- The cached size is the number of keys, as each key is listed once. -/
theorem size_of_represents {table : Table hash β} {map : NameMap β}
    (represents : Represents table map) : table.size = map.keys.card := by
  rw [size_eq_length_names, ← toFinset_names_of_represents represents]
  exact (List.toFinset_card_of_nodup table.nodup_names).symm

/-- A table is empty just if its map has no key. -/
theorem isEmpty_of_represents {table : Table hash β} {map : NameMap β}
    (represents : Represents table map) : table.isEmpty = decide (map.keys = ∅) := by
  rw [isEmpty, size_of_represents represents, Bool.eq_iff_iff, beq_iff_eq, decide_eq_true_iff]
  exact Finset.card_eq_zero

/-! ## Every request -/

section Requests

variable [DecidableEq ι]

/-- Replacing a table and its map by ones that belong together leaves all others belonging
together. -/
theorem represents_update {tables : ι → Table hash β} {maps : ι → NameMap β}
    (represents : ∀ i, Represents (tables i) (maps i)) (i : ι) {table : Table hash β}
    {map : NameMap β} (replaced : Represents table map) :
    ∀ j, Represents (Function.update tables i table j) (Function.update maps i map j) := by
  intro j
  by_cases same : j = i
  · subst same
    simpa using replaced
  · simpa [same] using represents j

/-- One request: the answers agree, and tables and maps belong together afterwards. By cases on the
request. -/
theorem serve_agrees {tables : ι → Table hash β} {maps : ι → NameMap β}
    (represents : ∀ i, Represents (tables i) (maps i)) (request : Request ι β) :
    Answer.Agrees (serve tables request).1 (serveMaps maps request).1 ∧
      ∀ i, Represents ((serve tables request).2 i) ((serveMaps maps request).2 i) := by
  cases request with
  | create i capacity =>
    exact ⟨trivial, represents_update represents i (represents_empty capacity)⟩
  | copy i source =>
    exact ⟨trivial, represents_update represents i (represents source)⟩
  | put i key value =>
    exact ⟨represents i key,
      represents_update represents i (represents_insert (represents i) key value)⟩
  | remove i key =>
    exact ⟨represents i key,
      represents_update represents i (represents_erase (represents i) key)⟩
  | clear i =>
    exact ⟨trivial, represents_update represents i (represents_clear (tables i))⟩
  | get i key => exact ⟨represents i key, represents⟩
  | contains i key => exact ⟨contains_of_represents (represents i) key, represents⟩
  | size i => exact ⟨size_of_represents (represents i), represents⟩
  | isEmpty i => exact ⟨isEmpty_of_represents (represents i), represents⟩
  | names i =>
    exact ⟨⟨(tables i).nodup_names, toFinset_names_of_represents (represents i)⟩, represents⟩

/-- Any sequence of requests, from tables and maps that belong together. By induction on the
requests, with `serve_agrees` for each. -/
theorem answers_agree {tables : ι → Table hash β} {maps : ι → NameMap β}
    (represents : ∀ i, Represents (tables i) (maps i)) (requests : List (Request ι β)) :
    List.Forall₂ Answer.Agrees (answers tables requests) (mapAnswers maps requests) := by
  induction requests generalizing tables maps with
  | nil => exact .nil
  | cons request rest inductionHypothesis =>
    obtain ⟨agrees, later⟩ := serve_agrees represents request
    exact .cons agrees (inductionHypothesis later)

/-! ## Tables are independent -/

/-- A request leaves every table alone but the one it names. -/
theorem serve_other (tables : ι → Table hash β) (request : Request ι β) {i : ι}
    (other : request.table ≠ i) : (serve tables request).2 i = tables i := by
  cases request <;> simp_all [serve, Request.table, Ne.symm]

/-- Requests that name other tables leave a table as it is, however many there are. -/
theorem after_other (tables : ι → Table hash β) {requests : List (Request ι β)} {i : ι}
    (others : ∀ request ∈ requests, request.table ≠ i) : after tables requests i = tables i := by
  induction requests generalizing tables with
  | nil => rfl
  | cons request rest inductionHypothesis =>
    have later := inductionHypothesis (serve tables request).2
      fun other member => others other (List.mem_cons_of_mem request member)
    exact later.trans (serve_other tables request (others request List.mem_cons_self))

/-- The answer to a request, and what it makes of the table it names, depend only on the tables it
concerns. -/
theorem serve_congr {tables tables' : ι → Table hash β} {i : ι} (same : tables i = tables' i)
    {request : Request ι β} (alone : ∀ j ∈ request.concerned, j = i) :
    (serve tables request).1 = (serve tables' request).1 ∧
      (serve tables request).2 i = (serve tables' request).2 i := by
  cases request <;> simp_all [serve, Request.concerned, Request.table]

/-- Requests that concern one table only are answered alike wherever this table is the same. By
induction over the requests, each of which leaves the table the same on both sides. -/
theorem answers_congr {tables tables' : ι → Table hash β} {i : ι} (same : tables i = tables' i)
    {requests : List (Request ι β)}
    (alone : ∀ request ∈ requests, ∀ j ∈ request.concerned, j = i) :
    answers tables requests = answers tables' requests := by
  induction requests generalizing tables tables' with
  | nil => rfl
  | cons request rest inductionHypothesis =>
    obtain ⟨sameAnswer, sameTable⟩ := serve_congr same (alone request List.mem_cons_self)
    have later := inductionHypothesis sameTable
      fun other member => alone other (List.mem_cons_of_mem request member)
    rw [answers, answers, sameAnswer, later]

/-- A history in two parts leads where the second leads from the end of the first. -/
theorem after_append (tables : ι → Table hash β) (first second : List (Request ι β)) :
    after tables (first ++ second) = after (after tables first) second := by
  induction first generalizing tables with
  | nil => rfl
  | cons request rest inductionHypothesis => exact inductionHypothesis (serve tables request).2

/-- Tables answer as finite maps do, for every hash, every initial number of buckets and every
sequence of requests. And a table is independent of all others, of those it was copied from and of
its copies among them: after any history, requests that change only other tables alter no answer to
any further requests to the table. -/
theorem tables_refine_maps (hash : String → Nat) (capacity : ι → Nat)
    (history : List (Request ι β)) :
    List.Forall₂ Answer.Agrees
        (answers (fun i => (empty (capacity i) : Table hash β)) history)
        (mapAnswers (fun _ => ∅) history) ∧
      ∀ (i : ι) (elsewhere queries : List (Request ι β)),
        (∀ request ∈ elsewhere, request.table ≠ i) →
        (∀ query ∈ queries, ∀ j ∈ query.concerned, j = i) →
        answers (after (fun i => (empty (capacity i) : Table hash β)) (history ++ elsewhere))
            queries =
          answers (after (fun i => (empty (capacity i) : Table hash β)) history) queries := by
  refine ⟨answers_agree (fun i => represents_empty (capacity i)) history, ?_⟩
  intro i elsewhere queries others alone
  apply answers_congr _ alone
  rw [after_append]
  exact after_other _ others

end Requests

/-- A table without room of its own whose names all collide, and a copy of it that is changed. -/
theorem tables_refine_maps_copy :
    let start : Bool → Table (fun _ => 0) Nat := fun _ => empty 0
    let history : List (Request Bool Nat) :=
      [.put false "a" 1, .put false "b" 2, .put false "c" 3, .remove false "a", .copy true false]
    let elsewhere : List (Request Bool Nat) := [.put true "b" 5, .clear true]
    let queries : List (Request Bool Nat) := [.get false "b", .names false]
    (∀ request ∈ elsewhere, request.table ≠ false) ∧
      (∀ query ∈ queries, ∀ j ∈ query.concerned, j = false) ∧
      answers (after start (history ++ elsewhere)) queries =
        answers (after start history) queries := by
  intro start history elsewhere queries
  have others : ∀ request ∈ elsewhere, request.table ≠ false := by
    simp [elsewhere, Request.table]
  have alone : ∀ query ∈ queries, ∀ j ∈ query.concerned, j = false := by
    simp [queries, Request.concerned, Request.table]
  exact ⟨others, alone,
    (tables_refine_maps (fun _ => 0) (fun _ => 0) history).2 false elsewhere queries others alone⟩

end SlotLang.Table
