/-!
# Ranges of code points

A class of characters is given by the ranges of its code points. The ranges of one class increase
and do not overlap.
-/

namespace SlotLang.Text

/-- Whether `n` lies in one of the ranges. The ranges increase, so the search stops at the first
one that ends at or after `n`. -/
def inRanges (n : Nat) : List (Nat × Nat) → Bool
  | [] => false
  | (first, last) :: rest => if n ≤ last then first ≤ n else inRanges n rest

/-- The ranges of a class, cut at U+2000 and at U+10000 so that a search stays short. -/
structure CodeRanges where
  /-- Below U+2000. -/
  low : List (Nat × Nat)
  /-- From U+2000 to below U+10000. -/
  middle : List (Nat × Nat)
  /-- From U+10000 on. -/
  high : List (Nat × Nat)

/-- Whether a code point belongs to the class. -/
def CodeRanges.contains (ranges : CodeRanges) (n : Nat) : Bool :=
  if n < 0x2000 then inRanges n ranges.low
  else if n < 0x10000 then inRanges n ranges.middle
  else inRanges n ranges.high

end SlotLang.Text
