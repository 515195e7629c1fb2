/-!
# Bounded edit distance

How many single-character insertions, deletions and substitutions turn one name into another,
as long as it is no more than a limit. The distances between the prefixes of the two names form a
table; one row of it is kept at a time, and the scan stops as soon as a whole row is past the limit.
-/

namespace SlotLang.Names

/-- The rest of the next row. `diagonal` and `left` are the entries above-left and to the left of
the one to compute, `above` the rest of the row above, and `target` the characters still to match
against `c`. -/
def fillRow (c : Char) : List Char → Nat → Nat → List Nat → List Nat
  | t :: target, diagonal, left, entry :: above =>
    let substituted := diagonal + if c = t then 0 else 1
    let next := min substituted (min (left + 1) (entry + 1))
    next :: fillRow c target entry next above
  | _, _, _, _ => []

/-- The row below `row`, which is row number `index`, for the source character `c`. -/
def nextRow (target : List Char) (index : Nat) (c : Char) (row : List Nat) : List Nat :=
  match row with
  | [] => []
  | first :: above => (index + 1) :: fillRow c target first (index + 1) above

/-- The last entry of the last row, unless it or a whole row on the way is past `limit`. -/
def scanRows (target : List Char) (limit : Nat) : List Char → Nat → List Nat → Option Nat
  | [], _, row => row.getLast?.filter (· ≤ limit)
  | c :: source, index, row =>
    let next := nextRow target index c row
    if next.all (limit < ·) then none else scanRows target limit source (index + 1) next

/-- The edit distance of two names if it is at most `limit`. A gap in length is a lower bound of
the distance, so it is looked at first. -/
def distanceWithin (limit : Nat) (source target : String) : Option Nat :=
  let s := source.toList
  let t := target.toList
  if limit < (s.length - t.length) + (t.length - s.length) then none
  else scanRows t limit s 0 (List.range (t.length + 1))

end SlotLang.Names
