import SlotLang.Json.Chars

/-!
# JSON values

The values that programs are written as: 64-bit integers, strings, lists and objects. Their written
form puts every value of a list and every member of an object on a line of its own, two blanks
deeper than the line that opens it.
-/

namespace SlotLang

/-- A JSON value of the kinds that programs are made of. -/
inductive Json where
  /-- An integer. -/
  | int (n : Int64)
  /-- A string. -/
  | string (text : String)
  /-- A list. -/
  | list (items : List Json)
  /-- An object, its members in order. -/
  | object (members : List (String × Json))

namespace Json

/-! ## Equality -/

mutual

/-- Whether two values are the same. -/
def same : Json → Json → Bool
  | int n, int m => n == m
  | string text, string other => text == other
  | list items, list others => sameItems items others
  | object members, object others => sameMembers members others
  | _, _ => false

/-- Whether two lists hold the same values. -/
def sameItems : List Json → List Json → Bool
  | [], [] => true
  | item :: items, other :: others => same item other && sameItems items others
  | _, _ => false

/-- Whether two objects have the same members in the same order. -/
def sameMembers : List (String × Json) → List (String × Json) → Bool
  | [], [] => true
  | (key, value) :: members, (otherKey, other) :: others =>
    key == otherKey && same value other && sameMembers members others
  | _, _ => false

end

mutual

/-- Values that are found to be the same are equal. The recursion is that of the comparison, which
goes through both values at once. -/
theorem eq_of_same : ∀ {value other : Json}, same value other = true → value = other
  | int n, int m, equal => by simp_all [same]
  | string text, string other, equal => by simp_all [same]
  | list items, list others, equal => by
    simp only [same] at equal
    rw [eq_of_sameItems equal]
  | object members, object others, equal => by
    simp only [same] at equal
    rw [eq_of_sameMembers equal]
  | int _, string _, equal => by simp [same] at equal
  | int _, list _, equal => by simp [same] at equal
  | int _, object _, equal => by simp [same] at equal
  | string _, int _, equal => by simp [same] at equal
  | string _, list _, equal => by simp [same] at equal
  | string _, object _, equal => by simp [same] at equal
  | list _, int _, equal => by simp [same] at equal
  | list _, string _, equal => by simp [same] at equal
  | list _, object _, equal => by simp [same] at equal
  | object _, int _, equal => by simp [same] at equal
  | object _, string _, equal => by simp [same] at equal
  | object _, list _, equal => by simp [same] at equal

/-- So are lists of values. -/
theorem eq_of_sameItems :
    ∀ {items others : List Json}, sameItems items others = true → items = others
  | [], [], _ => rfl
  | item :: items, other :: others, equal => by
    simp only [sameItems, Bool.and_eq_true] at equal
    rw [eq_of_same equal.1, eq_of_sameItems equal.2]
  | [], _ :: _, equal => by simp [sameItems] at equal
  | _ :: _, [], equal => by simp [sameItems] at equal

/-- So are lists of members, with their keys. -/
theorem eq_of_sameMembers :
    ∀ {members others : List (String × Json)}, sameMembers members others = true →
      members = others
  | [], [], _ => rfl
  | (key, value) :: members, (otherKey, other) :: others, equal => by
    simp only [sameMembers, Bool.and_eq_true, beq_iff_eq] at equal
    rw [equal.1.1, eq_of_same equal.1.2, eq_of_sameMembers equal.2]
  | [], _ :: _, equal => by simp [sameMembers] at equal
  | _ :: _, [], equal => by simp [sameMembers] at equal

end

mutual

/-- Every value is found to be the same as itself. -/
theorem same_self : ∀ value : Json, same value value = true
  | int n => by simp [same]
  | string text => by simp [same]
  | list items => by simpa [same] using sameItems_self items
  | object members => by simpa [same] using sameMembers_self members

/-- So is every list of values. -/
theorem sameItems_self : ∀ items : List Json, sameItems items items = true
  | [] => rfl
  | item :: items => by simp [sameItems, same_self item, sameItems_self items]

/-- So is every list of members. -/
theorem sameMembers_self : ∀ members : List (String × Json), sameMembers members members = true
  | [] => rfl
  | (key, value) :: members => by
    simp [sameMembers, same_self value, sameMembers_self members]

end

/-- Values can be compared, by the comparison above. -/
instance : DecidableEq Json := fun value other =>
  if equal : same value other = true then .isTrue (eq_of_same equal)
  else .isFalse fun identical => equal (identical ▸ same_self value)

/-! ## Writing -/

/-- A line break and the blanks before what stands `depth` levels deep. -/
def newline (depth : Nat) : List Char :=
  '\n' :: List.replicate (2 * depth) ' '

mutual

/-- A value as it is written `depth` levels deep, and what follows it. -/
def write (depth : Nat) : Json → List Char → List Char
  | int n, rest => (toString n.toInt).toList ++ rest
  | string text, rest => writeString text ++ rest
  | list [], rest => '[' :: ']' :: rest
  | list (item :: items), rest =>
    '[' :: (newline (depth + 1) ++
      write (depth + 1) item (writeItems (depth + 1) items (newline depth ++ ']' :: rest)))
  | object [], rest => '\x7b' :: '\x7d' :: rest
  | object ((key, value) :: members), rest =>
    '\x7b' :: (newline (depth + 1) ++ writeString key ++ ':' :: ' ' ::
      write (depth + 1) value
        (writeMembers (depth + 1) members (newline depth ++ '\x7d' :: rest)))

/-- The values of a list after its first, and what follows them. -/
def writeItems (depth : Nat) : List Json → List Char → List Char
  | [], rest => rest
  | item :: items, rest => ',' :: (newline depth ++ write depth item (writeItems depth items rest))

/-- The members of an object after its first, and what follows them. -/
def writeMembers (depth : Nat) : List (String × Json) → List Char → List Char
  | [], rest => rest
  | (key, value) :: members, rest =>
    ',' :: (newline depth ++ writeString key ++ ':' :: ' ' ::
      write depth value (writeMembers depth members rest))

end

/-- The written form of a value. -/
def pretty (value : Json) : String :=
  String.ofList (value.write 0 [])

end Json

end SlotLang
