import SlotLang.Names.Distance

/-!
# Suggestions for a name that is not bound

A failed look-up offers the bound name that is closest to the one asked for, if one is close enough.
-/

namespace SlotLang.Names

/-- How many edits may lie between a name and the one offered for it. -/
def suggestionLimit : Nat := 2

/-- The closest candidate within `limit` edits of `name`; of several equally close ones the first.
Once a candidate is found a later one must be strictly closer, so the limit drops below its
distance, and a candidate at distance zero ends the search. -/
def nearest (name : String) : List String → Nat → Option String
  | [], _ => none
  | candidate :: rest, limit =>
    match distanceWithin limit name candidate with
    | none => nearest name rest limit
    | some 0 => some candidate
    | some (closer + 1) => some ((nearest name rest closer).getD candidate)

/-- The name offered for `name` out of `candidates`. -/
def suggest (name : String) (candidates : List String) : Option String :=
  nearest name candidates suggestionLimit

/-- The words that offer a name, empty if there is none to offer. -/
def hint : Option String → String
  | none => ""
  | some name => " (did you mean `" ++ name ++ "`?)"

end SlotLang.Names
