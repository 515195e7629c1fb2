import SlotLang.Names.Suggestion
import SlotLang.Proofs.Names.Distance

/-!
# A suggestion is a nearest candidate

The search for a suggestion lowers its limit with every candidate it finds, and still ends with the
first of the candidates nearest to the name. Which of several equally near candidates that is
depends on their order; whether there is one, and how near it is, does not.
-/

namespace SlotLang.Names

/-- The edit distance of two names, character by character. -/
def apart (name other : String) : Nat :=
  distance name.toList other.toList

/-- Where a candidate stands among the candidates when it is the first of the nearest: those before
it are further away, and those after it are no nearer. -/
def FirstNearest (name found : String) (candidates : List String) : Prop :=
  ∃ before after, candidates = before ++ found :: after ∧
    (∀ other ∈ before, apart name found < apart name other) ∧
    ∀ other ∈ after, apart name found ≤ apart name other

/-- No candidate is nearer than the one found. -/
theorem FirstNearest.le {name found : String} {candidates : List String}
    (first : FirstNearest name found candidates) :
    ∀ other ∈ candidates, apart name found ≤ apart name other := by
  obtain ⟨before, after, rfl, further, noNearer⟩ := first
  intro other member
  rcases List.mem_append.mp member with inBefore | inRest
  · exact Nat.le_of_lt (further other inBefore)
  · rcases List.mem_cons.mp inRest with rfl | inAfter
    · exact Nat.le_refl _
    · exact noNearer other inAfter

/-- What is found is one of the candidates. -/
theorem FirstNearest.mem {name found : String} {candidates : List String}
    (first : FirstNearest name found candidates) : found ∈ candidates := by
  obtain ⟨before, after, rfl, -, -⟩ := first
  exact List.mem_append_right before List.mem_cons_self

/-- A candidate further away than the first nearest may stand in front. The one that was found is
then still the first of the nearest. -/
theorem FirstNearest.cons {name found candidate : String} {candidates : List String}
    (first : FirstNearest name found candidates)
    (further : apart name found < apart name candidate) :
    FirstNearest name found (candidate :: candidates) := by
  obtain ⟨before, after, rfl, furtherBefore, noNearer⟩ := first
  refine ⟨candidate :: before, after, rfl, ?_, noNearer⟩
  intro other member
  rcases List.mem_cons.mp member with rfl | inBefore
  · exact further
  · exact furtherBefore other inBefore

/-- The bounded distance of two names, in terms of how far they are apart. It is their distance,
unless that is past the limit. -/
theorem distanceWithin_cases (limit : Nat) (name other : String) :
    distanceWithin limit name other = none ∧ limit < apart name other ∨
      distanceWithin limit name other = some (apart name other) ∧ apart name other ≤ limit := by
  rw [distanceWithin_eq]
  by_cases within : apart name other ≤ limit
  · exact .inr ⟨if_pos within, within⟩
  · exact .inl ⟨if_neg within, Nat.lt_of_not_le within⟩

/-- A distance that was measured within a limit is the distance. The limit decides only whether it
is measured. -/
theorem apart_of_distanceWithin (limit : Nat) {gap : Nat} {name other : String}
    (measured : distanceWithin limit name other = some gap) : apart name other = gap := by
  rcases distanceWithin_cases limit name other with ⟨same, -⟩ | ⟨same, -⟩
  · rw [same] at measured
    cases measured
  · rw [same] at measured
    exact Option.some.inj measured

/-- The search finds the first of the nearest candidates, or nothing if all are past the limit.
Lowering the limit below the distance of a candidate in hand asks of the rest for a strictly nearer
one, so finding none there keeps the one in hand. -/
theorem nearest_exact (name : String) (candidates : List String) (limit : Nat) :
    match nearest name candidates limit with
    | none => ∀ other ∈ candidates, limit < apart name other
    | some found => apart name found ≤ limit ∧ FirstNearest name found candidates := by
  induction candidates generalizing limit with
  | nil => simp [nearest]
  | cons candidate rest inductionHypothesis =>
    rw [nearest]
    rcases distanceWithin_cases limit name candidate with ⟨measured, past⟩ | ⟨measured, within⟩
    · have later := inductionHypothesis limit
      rw [measured]
      cases found : nearest name rest limit with
      | none =>
        simp only [found] at later ⊢
        exact List.forall_mem_cons.mpr ⟨past, later⟩
      | some nearer =>
        simp only [found] at later ⊢
        exact ⟨later.1, later.2.cons (by omega)⟩
    · rw [measured]
      cases gap : apart name candidate with
      | zero =>
        exact ⟨by omega, [], rest, rfl, by simp, by simp [gap]⟩
      | succ closer =>
        have later := inductionHypothesis closer
        cases found : nearest name rest closer with
        | none =>
          simp only [found, Option.getD_none] at later ⊢
          exact ⟨within, [], rest, rfl, by simp, fun other member => by
            have further := later other member
            omega⟩
        | some nearer =>
          simp only [found, Option.getD_some] at later ⊢
          exact ⟨by omega, later.2.cons (by omega)⟩

/-- Two suggestions out of the same candidates in different orders: both are absent, or both are
there and equally near. -/
theorem suggest_congr {name : String} {candidates candidates' : List String}
    (same : ∀ other, other ∈ candidates ↔ other ∈ candidates') :
    suggest name candidates = none ∧ suggest name candidates' = none ∨
      ∃ found found', suggest name candidates = some found ∧
        suggest name candidates' = some found' ∧ apart name found = apart name found' := by
  have left := nearest_exact name candidates suggestionLimit
  have right := nearest_exact name candidates' suggestionLimit
  rw [suggest, suggest]
  cases foundLeft : nearest name candidates suggestionLimit with
  | none =>
    cases foundRight : nearest name candidates' suggestionLimit with
    | none => exact .inl ⟨rfl, rfl⟩
    | some found' =>
      simp only [foundLeft, foundRight] at left right
      have past := left found' ((same found').mpr right.2.mem)
      omega
  | some found =>
    cases foundRight : nearest name candidates' suggestionLimit with
    | none =>
      simp only [foundLeft, foundRight] at left right
      have past := right found ((same found).mp left.2.mem)
      omega
    | some found' =>
      simp only [foundLeft, foundRight] at left right
      have forth := left.2.le found' ((same found').mpr right.2.mem)
      have back := right.2.le found ((same found).mp left.2.mem)
      exact .inr ⟨found, found', rfl, rfl, Nat.le_antisymm forth back⟩

/-- Nothing is found exactly if all candidates are past the limit. One that is within it would be
found, or one nearer than it. -/
theorem nearest_eq_none_iff {name : String} {candidates : List String} {limit : Nat} :
    nearest name candidates limit = none ↔ ∀ other ∈ candidates, limit < apart name other := by
  have exact := nearest_exact name candidates limit
  cases found : nearest name candidates limit with
  | none =>
    simp only [found] at exact
    exact ⟨fun _ => exact, fun _ => rfl⟩
  | some nearer =>
    simp only [found] at exact
    constructor
    · intro absent
      cases absent
    · intro past
      exact absurd (past nearer exact.2.mem) (Nat.not_lt.mpr exact.1)

/-- What the search finds is the first of the nearest candidates: a later one replaces it only if it
is strictly nearer. -/
theorem firstNearest_of_nearest {name found : String} {candidates : List String} {limit : Nat}
    (searched : nearest name candidates limit = some found) :
    FirstNearest name found candidates := by
  have exact := nearest_exact name candidates limit
  simp only [searched] at exact
  exact exact.2

/-- A candidate that is nearer than all others is found wherever it stands. With others equally near
it would depend on the order. -/
theorem nearest_of_nearer {name closest : String} {candidates : List String}
    (member : closest ∈ candidates)
    (nearer : ∀ other ∈ candidates, other ≠ closest → apart name closest < apart name other)
    (limit : Nat) :
    nearest name candidates limit = if apart name closest ≤ limit then some closest else none := by
  cases searched : nearest name candidates limit with
  | none =>
    have past := nearest_eq_none_iff.mp searched closest member
    rw [if_neg (Nat.not_le.mpr past)]
  | some found =>
    have exact := nearest_exact name candidates limit
    simp only [searched] at exact
    obtain ⟨within, first⟩ := exact
    by_cases same : found = closest
    · rw [← same, if_pos within]
    · have further := nearer found first.mem same
      exact absurd (first.le closest member) (Nat.not_le.mpr further)

/-- The search finds the first of the closest candidates. It finds nothing exactly if all candidates
are past the limit, and otherwise the candidate that is no further away than any other and nearer
than all that stand before it. So the order of the candidates does not matter if one of them is
nearer than all others. -/
theorem nearest_first_of_closest (name : String) (candidates : List String) (limit : Nat) :
    (nearest name candidates limit = none ↔ ∀ other ∈ candidates, limit < apart name other) ∧
    (∀ found, nearest name candidates limit = some found → FirstNearest name found candidates) ∧
    ∀ closest ∈ candidates,
      (∀ other ∈ candidates, other ≠ closest → apart name closest < apart name other) →
      ∀ reordered, candidates.Perm reordered →
        nearest name reordered limit = nearest name candidates limit := by
  refine ⟨nearest_eq_none_iff, fun _ => firstNearest_of_nearest, ?_⟩
  intro closest member nearer reordered permuted
  have nearerReordered : ∀ other ∈ reordered, other ≠ closest →
      apart name closest < apart name other :=
    fun other among => nearer other (permuted.mem_iff.mpr among)
  rw [nearest_of_nearer member nearer,
    nearest_of_nearer (permuted.mem_iff.mp member) nearerReordered]

/-- Of two candidates that are one edit away from `cnt`, `cat` comes first. Without the other one it
is nearer than all, and the order does not matter. -/
theorem nearest_first_of_closest_cnt :
    nearest "cnt" ["count", "cat", "cent"] 2 = some "cat" ∧
    FirstNearest "cnt" "cat" ["count", "cat", "cent"] ∧
    nearest "cnt" ["cat", "count"] 2 = nearest "cnt" ["count", "cat"] 2 := by
  have searched : nearest "cnt" ["count", "cat", "cent"] 2 = some "cat" := by decide
  have far : apart "cnt" "count" = 2 := apart_of_distanceWithin 2 (by decide)
  have near : apart "cnt" "cat" = 1 := apart_of_distanceWithin 2 (by decide)
  refine ⟨searched, (nearest_first_of_closest _ _ _).2.1 _ searched, ?_⟩
  apply (nearest_first_of_closest "cnt" ["count", "cat"] 2).2.2 "cat" (by simp)
  · intro other among different
    obtain rfl : other = "count" := by simpa [different] using among
    omega
  · exact .swap _ _ _

end SlotLang.Names
