import Mathlib.Order.Bounds.Defs
import SlotLang.Names.Distance

/-!
# The bounded distance is the edit distance

The edit distance of two texts is defined by recursion on both and is the least cost of a script
that turns the one into the other. A script goes through both texts once; edits that are made one
after the other, in any order and anywhere in the text, cannot do with fewer, since an edit before
a script only changes the part of the script at its own place.

Scripts may be read from either end, so the distance of two texts is that of their reversals; this
joins the recursion, which takes texts from the front, with the scan, which extends prefixes at
their end.

The scan keeps the distances between one prefix of the source and all prefixes of the target. Every
later row has an entry at least as large as some entry of this one, which is why a row that is past
the limit as a whole settles the matter.
-/

namespace SlotLang.Names

/-! ## Distance and scripts -/

/-- The edit distance: how many insertions, deletions and substitutions of single characters turn
the first text into the second, at least. -/
def distance : List Char → List Char → Nat
  | [], target => target.length
  | source, [] => source.length
  | c :: source, t :: target =>
    min (distance source target + if c = t then 0 else 1)
      (min (distance (c :: source) target + 1) (distance source (t :: target) + 1))
termination_by source target => source.length + target.length

/-- A way to turn one text into another, character by character, and what it costs. Each character
of the source is dealt with once, from the front on. -/
inductive Script : Nat → List Char → List Char → Prop where
  /-- There is nothing left. -/
  | finished : Script 0 [] []
  /-- Keep a character. -/
  | keep {cost : Nat} {source target : List Char} (c : Char) (rest : Script cost source target) :
      Script cost (c :: source) (c :: target)
  /-- Replace a character. -/
  | replace {cost : Nat} {source target : List Char} (c t : Char)
      (rest : Script cost source target) : Script (cost + 1) (c :: source) (t :: target)
  /-- Insert a character. -/
  | insert {cost : Nat} {source target : List Char} (t : Char)
      (rest : Script cost source target) : Script (cost + 1) source (t :: target)
  /-- Delete a character. -/
  | delete {cost : Nat} {source target : List Char} (c : Char)
      (rest : Script cost source target) : Script (cost + 1) (c :: source) target

/-- From nothing, every character of the target is inserted. -/
theorem distance_nil_left (target : List Char) : distance [] target = target.length := by
  rw [distance]

/-- To nothing, every character of the source is deleted. -/
theorem distance_nil_right (source : List Char) : distance source [] = source.length := by
  cases source <;> simp [distance]

/-- Of two texts that are not empty, the first characters are matched, the first of the target is
inserted, or the first of the source is deleted, whatever is cheapest. -/
theorem distance_cons_cons (c t : Char) (source target : List Char) :
    distance (c :: source) (t :: target) =
      min (distance source target + if c = t then 0 else 1)
        (min (distance (c :: source) target + 1) (distance source (t :: target) + 1)) := by
  rw [distance]

/-- No script is cheaper than the distance. By induction on the script, whose steps are the choices
that the distance is the least of. -/
theorem distance_le_of_script {cost : Nat} {source target : List Char}
    (script : Script cost source target) : distance source target ≤ cost := by
  induction script with
  | finished => simp [distance]
  | keep c rest inductionHypothesis =>
    rw [distance_cons_cons, if_pos rfl]
    omega
  | replace c t rest inductionHypothesis =>
    rw [distance_cons_cons]
    split <;> omega
  | @insert cost source target t rest inductionHypothesis =>
    cases source with
    | nil => simpa [distance_nil_left] using inductionHypothesis
    | cons c source =>
      rw [distance_cons_cons]
      omega
  | @delete cost source target c rest inductionHypothesis =>
    cases target with
    | nil => simpa [distance_nil_right] using inductionHypothesis
    | cons t target =>
      rw [distance_cons_cons]
      omega

/-- A script that inserts every character makes a text out of nothing. -/
theorem script_of_insertions (target : List Char) : Script target.length [] target := by
  induction target with
  | nil => exact .finished
  | cons t target inductionHypothesis => exact .insert t inductionHypothesis

/-- A script that deletes every character leaves nothing. -/
theorem script_of_deletions (source : List Char) : Script source.length source [] := by
  induction source with
  | nil => exact .finished
  | cons c source inductionHypothesis => exact .delete c inductionHypothesis

/-- A script that keeps every character costs nothing. -/
theorem script_unchanged (text : List Char) : Script 0 text text := by
  induction text with
  | nil => exact .finished
  | cons c text inductionHypothesis => exact .keep c inductionHypothesis

/-- Some script costs exactly the distance. By induction on the two texts, with a choice that the
distance comes from. -/
theorem script_distance (source target : List Char) :
    Script (distance source target) source target := by
  fun_induction distance source target with
  | case1 target => exact script_of_insertions target
  | case2 source _ => exact script_of_deletions source
  | case3 c source t target diagonal left above =>
    -- The minimum is one of its three parts, and each part comes with a script.
    rcases Nat.le_total (distance source target + if c = t then 0 else 1)
      (min (distance (c :: source) target + 1)
        (distance source (t :: target) + 1)) with least | least
    · rw [Nat.min_eq_left least]
      by_cases same : c = t
      · subst same
        simpa using Script.keep c diagonal
      · simpa [same] using Script.replace c t diagonal
    · rw [Nat.min_eq_right least]
      rcases Nat.le_total (distance (c :: source) target + 1)
        (distance source (t :: target) + 1) with least | least
      · rw [Nat.min_eq_left least]
        exact .insert t left
      · rw [Nat.min_eq_right least]
        exact .delete c above

/-! ## Scripts from either end -/

/-- Scripts for two texts, one after the other, are a script for the texts together, and the costs
add up. -/
theorem Script.append {cost more : Nat} {source target source' target' : List Char}
    (first : Script cost source target) (second : Script more source' target') :
    Script (cost + more) (source ++ source') (target ++ target') := by
  induction first with
  | finished => simpa using second
  | keep c _ inductionHypothesis => exact .keep c inductionHypothesis
  | @replace cost _ _ c t _ inductionHypothesis =>
    rw [show cost + 1 + more = cost + more + 1 by omega]
    exact .replace c t inductionHypothesis
  | @insert cost _ _ t _ inductionHypothesis =>
    rw [show cost + 1 + more = cost + more + 1 by omega]
    exact .insert t inductionHypothesis
  | @delete cost _ _ c _ inductionHypothesis =>
    rw [show cost + 1 + more = cost + more + 1 by omega]
    exact .delete c inductionHypothesis

/-- A script can be read backwards: each step is then done at the other end of what the later steps
leave. -/
theorem Script.reverse {cost : Nat} {source target : List Char}
    (script : Script cost source target) : Script cost source.reverse target.reverse := by
  induction script with
  | finished => exact .finished
  | keep c _ inductionHypothesis =>
    simpa using inductionHypothesis.append (.keep c .finished)
  | replace c t _ inductionHypothesis =>
    simpa using inductionHypothesis.append (.replace c t .finished)
  | insert t _ inductionHypothesis =>
    simpa using inductionHypothesis.append (.insert t .finished)
  | delete c _ inductionHypothesis =>
    simpa using inductionHypothesis.append (.delete c .finished)

/-- The distance does not depend on the end that texts are read from. -/
theorem distance_reverse (source target : List Char) :
    distance source.reverse target.reverse = distance source target := by
  apply Nat.le_antisymm
  · exact distance_le_of_script (script_distance source target).reverse
  · have back := (script_distance source.reverse target.reverse).reverse
    rw [List.reverse_reverse, List.reverse_reverse] at back
    exact distance_le_of_script back

/-- A script for a source in two parts is a script for each of them, one after the other. The target
and the cost come apart accordingly. -/
theorem Script.of_append {cost : Nat} {source target : List Char}
    (script : Script cost source target) :
    ∀ front back : List Char, source = front ++ back →
      ∃ (start finish : List Char) (first second : Nat), target = start ++ finish ∧
        cost = first + second ∧ Script first front start ∧ Script second back finish := by
  induction script with
  | finished =>
    intro front back split
    obtain ⟨rfl, rfl⟩ := List.append_eq_nil_iff.mp split.symm
    exact ⟨[], [], 0, 0, rfl, rfl, .finished, .finished⟩
  | @keep cost source target c rest inductionHypothesis =>
    intro front back split
    cases front with
    | nil =>
      obtain rfl : back = c :: source := split.symm
      exact ⟨[], c :: target, 0, cost, rfl, by omega, .finished, .keep c rest⟩
    | cons d front =>
      obtain ⟨rfl, others⟩ := List.cons.inj split
      obtain ⟨start, finish, first, second, rfl, rfl, beginning, ending⟩ :=
        inductionHypothesis front back others
      exact ⟨c :: start, finish, first, second, rfl, rfl, .keep c beginning, ending⟩
  | @replace cost source target c t rest inductionHypothesis =>
    intro front back split
    cases front with
    | nil =>
      obtain rfl : back = c :: source := split.symm
      exact ⟨[], t :: target, 0, cost + 1, rfl, by omega, .finished, .replace c t rest⟩
    | cons d front =>
      obtain ⟨rfl, others⟩ := List.cons.inj split
      obtain ⟨start, finish, first, second, rfl, rfl, beginning, ending⟩ :=
        inductionHypothesis front back others
      exact ⟨t :: start, finish, first + 1, second, rfl, by omega, .replace c t beginning, ending⟩
  | insert t rest inductionHypothesis =>
    intro front back split
    obtain ⟨start, finish, first, second, rfl, rfl, beginning, ending⟩ :=
      inductionHypothesis front back split
    exact ⟨t :: start, finish, first + 1, second, rfl, by omega, .insert t beginning, ending⟩
  | @delete cost source target c rest inductionHypothesis =>
    intro front back split
    cases front with
    | nil =>
      obtain rfl : back = c :: source := split.symm
      exact ⟨[], target, 0, cost + 1, rfl, by omega, .finished, .delete c rest⟩
    | cons d front =>
      obtain ⟨rfl, others⟩ := List.cons.inj split
      obtain ⟨start, finish, first, second, rfl, rfl, beginning, ending⟩ :=
        inductionHypothesis front back others
      exact ⟨start, finish, first + 1, second, rfl, by omega, .delete c beginning, ending⟩

/-- A script is at least as long as the lengths are apart. -/
theorem Script.length_le {cost : Nat} {source target : List Char}
    (script : Script cost source target) :
    source.length ≤ target.length + cost ∧ target.length ≤ source.length + cost := by
  induction script with
  | finished => simp
  | keep _ _ inductionHypothesis | replace _ _ _ inductionHypothesis
  | insert _ _ inductionHypothesis | delete _ _ inductionHypothesis =>
    simp only [List.length_cons]
    omega

/-! ## Edits one after the other -/

/-- One edit: somewhere in a text a character is inserted, deleted or replaced. No order of places
is prescribed, so edits may undo each other. -/
inductive Edit : List Char → List Char → Prop where
  /-- Insert a character. -/
  | insert (front back : List Char) (c : Char) : Edit (front ++ back) (front ++ c :: back)
  /-- Delete a character. -/
  | delete (front back : List Char) (c : Char) : Edit (front ++ c :: back) (front ++ back)
  /-- Replace a character by another, or by itself. -/
  | replace (front back : List Char) (c d : Char) :
      Edit (front ++ c :: back) (front ++ d :: back)

/-- A number of edits, one after the other, each of them anywhere in what the last one left. -/
inductive Edits : Nat → List Char → List Char → Prop where
  /-- No edit. -/
  | none (text : List Char) : Edits 0 text text
  /-- One edit, and then the others. -/
  | next {count : Nat} {source between target : List Char} (first : Edit source between)
      (rest : Edits count between target) : Edits (count + 1) source target

/-- An edit can be done as well with one more character in front. -/
theorem Edit.cons {source target : List Char} (edit : Edit source target) (c : Char) :
    Edit (c :: source) (c :: target) := by
  cases edit with
  | insert front back d => exact .insert (c :: front) back d
  | delete front back d => exact .delete (c :: front) back d
  | replace front back d e => exact .replace (c :: front) back d e

/-- So can any number of edits, and their number stays the same. -/
theorem Edits.cons {count : Nat} {source target : List Char} (edits : Edits count source target)
    (c : Char) : Edits count (c :: source) (c :: target) := by
  induction edits with
  | none text => exact .none (c :: text)
  | next first _ inductionHypothesis => exact .next (first.cons c) inductionHypothesis

/-- A script is carried out by as many edits as it costs, from the front to the end. -/
theorem Script.edits {cost : Nat} {source target : List Char}
    (script : Script cost source target) : Edits cost source target := by
  induction script with
  | finished => exact .none []
  | keep c _ inductionHypothesis => exact inductionHypothesis.cons c
  | replace c t _ inductionHypothesis =>
    exact .next (.replace [] _ c t) (inductionHypothesis.cons t)
  | insert t _ inductionHypothesis => exact .next (.insert [] _ t) (inductionHypothesis.cons t)
  | delete c _ inductionHypothesis => exact .next (.delete [] _ c) inductionHypothesis

/-- A text of one character at most is turned into another text by writing over it. -/
theorem script_of_short {piece : List Char} (short : piece.length ≤ 1) (target : List Char) :
    ∃ cost ≤ max target.length 1, Script cost piece target := by
  match piece, target, short with
  | [], target, _ => exact ⟨target.length, Nat.le_max_left _ _, script_of_insertions target⟩
  | [c], [], _ => exact ⟨1, Nat.le_max_right _ _, script_of_deletions [c]⟩
  | [c], t :: target, _ =>
    exact ⟨target.length + 1, Nat.le_max_left _ _, .replace c t (script_of_insertions target)⟩

/-- With another piece of one character at most in its place, a script costs at most one more: what
stands before the piece and after it keeps its part of the script. -/
theorem Script.exchange {cost : Nat} {target : List Char} (front piece other back : List Char)
    (script : Script cost (front ++ (piece ++ back)) target) (short : piece.length ≤ 1)
    (otherShort : other.length ≤ 1) :
    ∃ more ≤ cost + 1, Script more (front ++ (other ++ back)) target := by
  obtain ⟨start, _, first, _, rfl, rfl, beginning, rest⟩ := script.of_append front _ rfl
  obtain ⟨middle, finish, second, third, rfl, rfl, written, ending⟩ := rest.of_append piece back rfl
  obtain ⟨_, notLonger⟩ := written.length_le
  obtain ⟨rewritten, cheap, exchanged⟩ := script_of_short otherShort middle
  exact ⟨first + (rewritten + third), by omega, beginning.append (exchanged.append ending)⟩

/-- An edit before a script costs at most one more than the script. -/
theorem Edit.then_script {cost : Nat} {source between target : List Char}
    (edit : Edit source between) (script : Script cost between target) :
    ∃ more ≤ cost + 1, Script more source target := by
  cases edit with
  | insert front back c =>
    exact script.exchange front [c] [] back (Nat.le_refl 1) (Nat.zero_le 1)
  | delete front back c =>
    exact script.exchange front [] [c] back (Nat.zero_le 1) (Nat.le_refl 1)
  | replace front back c d =>
    exact script.exchange front [d] [c] back (Nat.le_refl 1) (Nat.le_refl 1)

/-- No number of edits below the distance leads from the one text to the other. Each edit is put
before a script for the rest, at a cost of one at most. -/
theorem Edits.distance_le {count : Nat} {source target : List Char}
    (edits : Edits count source target) : distance source target ≤ count := by
  induction edits with
  | none text => exact distance_le_of_script (script_unchanged text)
  | @next count source between target first _ inductionHypothesis =>
    obtain ⟨other, cheap, script⟩ := first.then_script (script_distance between target)
    have below := distance_le_of_script script
    omega

/-- The distance is the least number of edits that lead from the one text to the other. -/
theorem isLeast_distance (source target : List Char) :
    IsLeast {count | Edits count source target} (distance source target) :=
  ⟨(script_distance source target).edits, fun _ edits => edits.distance_le⟩

/-! ## The rows of the scan -/

/-- The distances between the source read so far and the target read so far, extended by one
character of the rest after the other. What was read is held with its last character first. -/
def rowAfter (source : List Char) : List Char → List Char → List Nat
  | _, [] => []
  | target, t :: rest => distance source (t :: target) :: rowAfter source (t :: target) rest

/-- Filling a row from the row above gives the next row. -/
theorem fillRow_eq (c : Char) (source target rest : List Char) :
    fillRow c rest (distance source target) (distance (c :: source) target)
        (rowAfter source target rest) =
      rowAfter (c :: source) target rest := by
  induction rest generalizing target with
  | nil => simp [fillRow, rowAfter]
  | cons t rest inductionHypothesis =>
    simp only [rowAfter, fillRow]
    rw [← distance_cons_cons, inductionHypothesis]

/-- One row of the table gives the next. Each row holds the distances of one front part of the
source from all front parts of the target, so the new row needs the one before and nothing else. -/
theorem nextRow_eq (c : Char) (source target : List Char) :
    nextRow target source.length c (distance source [] :: rowAfter source [] target) =
      distance (c :: source) [] :: rowAfter (c :: source) [] target := by
  have first : distance (c :: source) [] = source.length + 1 := distance_nil_right _
  rw [nextRow, ← first, fillRow_eq]

/-- The first row counts up: nothing is that far from the prefixes of the target. -/
theorem firstRow_eq (target rest : List Char) :
    distance [] target :: rowAfter [] target rest =
      List.range' target.length (rest.length + 1) := by
  induction rest generalizing target with
  | nil => simp [rowAfter, distance_nil_left]
  | cons t rest inductionHypothesis =>
    rw [rowAfter, inductionHypothesis, distance_nil_left]
    simp [List.range'_succ]

/-- The last entry of a row is the distance to the whole target. -/
theorem getLast?_row (source target rest : List Char) :
    (distance source target :: rowAfter source target rest).getLast? =
      some (distance source (rest.reverse ++ target)) := by
  induction rest generalizing target with
  | nil => simp [rowAfter]
  | cons t rest inductionHypothesis =>
    rw [rowAfter, List.getLast?_cons_cons, inductionHypothesis]
    simp

/-- A row has an entry for every prefix of the target. -/
theorem mem_row (source target start rest : List Char) :
    distance source (start.reverse ++ target) ∈
      distance source target :: rowAfter source target (start ++ rest) := by
  induction start generalizing target with
  | nil => simp
  | cons t start inductionHypothesis =>
    have later := inductionHypothesis (t :: target)
    simp only [List.cons_append, rowAfter, List.reverse_cons, List.append_assoc]
    exact List.mem_cons_of_mem _ later

/-- No later distance is below every entry of a row. So a scan may end as soon as all entries of a
row are past the limit. -/
theorem exists_mem_row_le (front source target : List Char) :
    ∃ entry ∈ distance source [] :: rowAfter source [] target,
      entry ≤ distance (front ++ source) target.reverse := by
  obtain ⟨start, finish, _, less, split, cost, _, ending⟩ :=
    (script_distance (front ++ source) target.reverse).of_append front source rfl
  have cheaper : less ≤ distance (front ++ source) target.reverse := by omega
  have whole : target = finish.reverse ++ start.reverse := by
    rw [← List.reverse_append, ← split, List.reverse_reverse]
  refine ⟨distance source finish, ?_, Nat.le_trans (distance_le_of_script ending) cheaper⟩
  have member := mem_row source [] finish.reverse start.reverse
  rw [← whole, List.append_nil, List.reverse_reverse] at member
  exact member

/-- The scan from any row on finds the distance if it is within the limit, and nothing if not. By
induction on what is left of the source. -/
theorem scanRows_eq (target : List Char) (limit : Nat) (rest source : List Char) :
    scanRows target limit rest source.length (distance source [] :: rowAfter source [] target) =
      if distance (rest.reverse ++ source) target.reverse ≤ limit then
        some (distance (rest.reverse ++ source) target.reverse)
      else none := by
  induction rest generalizing source with
  | nil =>
    rw [scanRows, getLast?_row]
    by_cases within : distance source target.reverse ≤ limit
    · simp [within]
    · simp [within, Nat.lt_of_not_le within]
  | cons c rest inductionHypothesis =>
    have later := inductionHypothesis (c :: source)
    simp only [List.reverse_cons, List.append_assoc, List.cons_append, List.nil_append]
    rw [scanRows, nextRow_eq]
    split
    · next past =>
      obtain ⟨entry, member, below⟩ := exists_mem_row_le rest.reverse (c :: source) target
      have beyond : limit < entry := by
        simpa using List.all_eq_true.mp past entry member
      rw [if_neg (by omega)]
    · simpa using later

/-- The bounded distance is the edit distance where that is within the limit, and nothing where it
is not. -/
theorem distanceWithin_eq (limit : Nat) (source target : String) :
    distanceWithin limit source target =
      if distance source.toList target.toList ≤ limit then
        some (distance source.toList target.toList)
      else none := by
  have apart := (script_distance source.toList target.toList).length_le
  have first := firstRow_eq [] target.toList
  have scanned := scanRows_eq target.toList limit source.toList []
  rw [distanceWithin]
  split
  · rw [if_neg (by omega)]
  · rw [List.append_nil, distance_reverse, first] at scanned
    rw [List.range_eq_range']
    exact scanned

/-- The bounded distance is exact. For any two names there is a least number of insertions,
deletions and substitutions of single characters that turns the one into the other, whatever the
places of the edits and their order; it is the answer where it is within the limit, and where it is
not there is no answer. -/
theorem distanceWithin_eq_least_edits (limit : Nat) (source target : String) :
    ∃ least, IsLeast {count | Edits count source.toList target.toList} least ∧
      distanceWithin limit source target = if least ≤ limit then some least else none :=
  ⟨distance source.toList target.toList, isLeast_distance _ _, distanceWithin_eq limit _ _⟩

end SlotLang.Names
