import Mathlib.Data.List.Forall2
import SlotLang.Proofs.Json.Spelling

/-!
# Written values are spelled

A value is written on lines of its own, with blanks that depend on how deep it stands. At every
depth this is one of the value's spellings, if the value has the form that is asked for. The writer
hands what follows a value along; first it is shown that what follows can as well be appended.
-/

namespace SlotLang.Json

/-! ## What follows a value -/

mutual

/-- What follows a value is written after it and changes nothing in it. The text that follows is an
argument of the writer, which saves putting texts together; here it is taken apart again. The
induction is over the value, with its items and its members. -/
theorem write_append (depth : Nat) :
    ∀ (value : Json) (rest : List Char), write depth value rest = write depth value [] ++ rest
  | .int _, rest => by simp [write]
  | .string _, rest => by simp [write]
  | .list [], rest => by simp [write]
  | .list (item :: items), rest => by
    simp only [write]
    rw [write_append (depth + 1) item (writeItems ..), writeItems_append (depth + 1) items,
      write_append (depth + 1) item (writeItems (depth + 1) items (newline depth ++ [']'])),
      writeItems_append (depth + 1) items (newline depth ++ [']'])]
    simp
  | .object [], rest => by simp [write]
  | .object ((key, value) :: members), rest => by
    simp only [write]
    rw [write_append (depth + 1) value (writeMembers ..), writeMembers_append (depth + 1) members,
      write_append (depth + 1) value (writeMembers (depth + 1) members (newline depth ++ ['\x7d'])),
      writeMembers_append (depth + 1) members (newline depth ++ ['\x7d'])]
    simp

/-- The same for the items of a list that are written behind its first one. -/
theorem writeItems_append (depth : Nat) :
    ∀ (items : List Json) (rest : List Char),
      writeItems depth items rest = writeItems depth items [] ++ rest
  | [], rest => by simp [writeItems]
  | item :: items, rest => by
    simp only [writeItems]
    rw [write_append depth item (writeItems depth items rest), writeItems_append depth items rest,
      write_append depth item (writeItems depth items [])]
    simp

/-- The same for the members of an object that are written behind its first one. -/
theorem writeMembers_append (depth : Nat) :
    ∀ (members : List (String × Json)) (rest : List Char),
      writeMembers depth members rest = writeMembers depth members [] ++ rest
  | [], rest => by simp [writeMembers]
  | (key, value) :: members, rest => by
    simp only [writeMembers]
    rw [write_append depth value (writeMembers depth members rest),
      writeMembers_append depth members rest,
      write_append depth value (writeMembers depth members [])]
    simp

end

/-! ## Layout -/

/-- A new line with its indentation is blank, at any depth. -/
theorem blanks_newline (depth : Nat) : Blanks (newline depth) := by
  intro c inside
  rcases List.mem_cons.mp inside with rfl | inside
  · rfl
  · rw [List.eq_of_mem_replicate inside]
    rfl

/-- So is the space behind a colon. -/
theorem blanks_space : Blanks [' '] := by
  intro c inside
  rw [List.mem_singleton.mp inside]
  rfl

/-- A member as it is written: no blank before the colon and one behind it. -/
def writtenMember (depth : Nat) (member : String × Json) : MemberText :=
  ⟨writeString member.1, [], [' '], write depth member.2 []⟩

/-- Items are written with a comma before each, and with blanks between the comma and the item. -/
theorem separated_writeItems (depth : Nat) (items : List Json) :
    Separated false (items.map (write depth · [])) (writeItems depth items []) := by
  induction items with
  | nil => exact .none false
  | cons item items inductionHypothesis =>
    rw [writeItems, write_append]
    exact .next .nil (blanks_newline depth) inductionHypothesis

/-- Members are written in the same way as items are. -/
theorem separated_writeMembers (depth : Nat) (members : List (String × Json)) :
    Separated false (members.map fun member => (writtenMember depth member).text)
      (writeMembers depth members []) := by
  induction members with
  | nil => exact .none false
  | cons member members inductionHypothesis =>
    have laid := @Separated.next [] (newline depth) (writtenMember depth member).text _ _ .nil
      (blanks_newline depth) inductionHypothesis
    rw [writeMembers, write_append]
    simpa [writtenMember, MemberText.text] using laid

/-- A list is written in brackets, its items separated. One without items has nothing between its
brackets, blanks included. -/
theorem write_list (depth : Nat) (items : List Json) :
    ∃ body blanks, Separated true (items.map (write (depth + 1) · [])) body ∧ Blanks blanks ∧
      write depth (.list items) [] = '[' :: (body ++ (blanks ++ [']'])) := by
  cases items with
  | nil => exact ⟨[], [], .none true, .nil, by simp [write]⟩
  | cons item items =>
    refine ⟨_, _, .first (blanks_newline (depth + 1)) (separated_writeItems (depth + 1) items),
      blanks_newline depth, ?_⟩
    simp only [write]
    rw [write_append, writeItems_append]
    simp

/-- An object is written in braces, its members separated. -/
theorem write_object (depth : Nat) (members : List (String × Json)) :
    ∃ body blanks,
      Separated true (members.map fun member => (writtenMember (depth + 1) member).text) body ∧
        Blanks blanks ∧
        write depth (.object members) [] = '\x7b' :: (body ++ (blanks ++ ['\x7d'])) := by
  cases members with
  | nil => exact ⟨[], [], .none true, .nil, by simp [write]⟩
  | cons member members =>
    refine ⟨_, _, .first (blanks_newline (depth + 1)) (separated_writeMembers (depth + 1) members),
      blanks_newline depth, ?_⟩
    simp only [write]
    rw [write_append, writeMembers_append]
    simp [writtenMember, MemberText.text]

/-! ## Forms -/

/-- A value has a form if at every depth its written text spells it in that form. The depth shows in
the blanks only. -/
def HasForm (form : Form) (value : Json) : Prop :=
  ∀ depth, Spells form value (write depth value [])

/-- A string has the form of a text. -/
theorem hasForm_text (value : String) : HasForm (.value .text) (.string value) := by
  intro depth
  rw [write, List.append_nil]
  exact .text (spellsString_writeString value)

/-- An integer has the form of one. -/
theorem hasForm_integer (n : Int64) : HasForm (.value .integer) (.int n) := by
  intro depth
  rw [write, List.append_nil]
  exact .integer n

/-- A list has the form of lists whose items each have the form of an item. -/
theorem hasForm_list {item : Shape} {items : List Json}
    (each : ∀ value ∈ items, HasForm (.value item) value) :
    HasForm (.value (.list item)) (.list items) := by
  intro depth
  obtain ⟨body, blanks, separated, blank, written⟩ := write_list depth items
  let pieces := items.map fun value => (value, write (depth + 1) value [])
  have values : pieces.map Prod.fst = items := by simp [pieces, Function.comp_def]
  have texts : pieces.map Prod.snd = items.map (write (depth + 1) · []) := by simp [pieces]
  rw [written, ← values]
  refine .list (fun piece inside => ?_) (texts ▸ separated) blank
  obtain ⟨value, listed, rfl⟩ := List.mem_map.mp inside
  exact each value listed (depth + 1)

/-- A list has the form of a row if each value has the form of its place, so there are as many
values as places. -/
theorem hasForm_row {shapes : List Shape} {values : List Json}
    (each : List.Forall₂ (fun shape value => HasForm (.value shape) value) shapes values) :
    HasForm (.row shapes) (.list values) := by
  intro depth
  obtain ⟨body, blanks, separated, blank, written⟩ := write_list depth values
  obtain ⟨sameLength, each⟩ := List.forall₂_iff_zip.mp each
  let places := (shapes.zip values).map fun pair => (pair.1, pair.2, write (depth + 1) pair.2 [])
  have shapesSame : places.map (·.1) = shapes := by
    simpa [places, Function.comp_def] using List.map_fst_zip (Nat.le_of_eq sameLength)
  have valuesSame : places.map (·.2.1) = values := by
    simpa [places, Function.comp_def] using List.map_snd_zip (Nat.le_of_eq sameLength.symm)
  have texts : places.map (·.2.2) = values.map (write (depth + 1) · []) := by
    rw [← valuesSame]
    simp [places, Function.comp_def]
  rw [written, ← shapesSame, ← valuesSame]
  refine .row (fun place inside => ?_) (texts ▸ separated) blank
  obtain ⟨pair, listed, rfl⟩ := List.mem_map.mp inside
  exact each listed (depth + 1)

/-- The members of an object are a record's fields in order, each with a value of its shape. No
field is left out. -/
inductive Fills : List Field → List (String × Json) → Prop where
  | nil : Fills [] []
  | cons {field : Field} {fields : List Field} {value : Json} {members : List (String × Json)}
      (first : HasForm (.value field.shape) value) (others : Fills fields members) :
      Fills (field :: fields) ((field.name, value) :: members)

/-- The pairs of fields and values that an object's members come from. -/
theorem Fills.pairs {fields : List Field} {members : List (String × Json)}
    (fills : Fills fields members) :
    ∃ filled : List (Field × Json), fields = filled.map Prod.fst ∧
      members = filled.map (fun pair => (pair.1.name, pair.2)) ∧
      ∀ pair ∈ filled, HasForm (.value pair.1.shape) pair.2 := by
  induction fills with
  | nil => exact ⟨[], rfl, rfl, List.forall_mem_nil _⟩
  | @cons field fields value members first _ inductionHypothesis =>
    obtain ⟨filled, rfl, rfl, each⟩ := inductionHypothesis
    exact ⟨(field, value) :: filled, rfl, rfl, List.forall_mem_cons.mpr ⟨first, each⟩⟩

/-- A record is written as an object that has its fields in order and nothing besides. The names
have to be distinct for the object to be read as it is written. -/
theorem hasForm_record {fields : List Field} {members : List (String × Json)}
    (distinct : (fields.map Field.name).Nodup) (fills : Fills fields members) :
    HasForm (.record fields) (.object members) := by
  intro depth
  obtain ⟨body, blanks, separated, blank, written⟩ := write_object depth members
  obtain ⟨filled, rfl, rfl, each⟩ := fills.pairs
  rw [List.map_map] at distinct separated
  let entries := filled.map fun pair =>
    (⟨pair.1.name, writtenMember (depth + 1) (pair.1.name, pair.2), some pair⟩ : Entry)
  have texts : entries.map (·.member.text) =
      filled.map ((fun member => (writtenMember (depth + 1) member).text) ∘
        fun pair => (pair.1.name, pair.2)) := by
    simp [entries]
  have all : entries.filterMap Entry.filling = filled := by
    simp [entries, List.filterMap_map]
  rw [written]
  refine .named distinct (all ▸ .refl _) ?_ ?_ ?_ ?_ (texts ▸ separated) blank
  · intro entry inside
    obtain ⟨pair, listed, rfl⟩ := List.mem_map.mp inside
    exact ⟨spellsString_writeString _, .nil, blanks_space⟩
  · intro entry inside pair filling
    obtain ⟨pair, listed, rfl⟩ := List.mem_map.mp inside
    cases filling
    rfl
  · intro entry inside pair filling
    obtain ⟨pair, listed, rfl⟩ := List.mem_map.mp inside
    cases filling
    exact each pair listed (depth + 1)
  · intro entry inside filling
    obtain ⟨pair, listed, rfl⟩ := List.mem_map.mp inside
    cases filling

/-- A string has the form of a variant without content if it is the tag of one. -/
theorem hasForm_tag {kind : Kind} {name tag : String} {variants : List Variant}
    (layout : kind.layout = .choice name variants) (known : ⟨tag, .unit⟩ ∈ variants) :
    HasForm (.value (.term kind)) (.string tag) := by
  intro depth
  rw [write, List.append_nil]
  exact .tag layout known (spellsString_writeString tag)

/-- An object with one member has the form of a variant with content: the key is the tag, and the
value has the form of the content. -/
theorem hasForm_tagged {kind : Kind} {name tag : String} {variants : List Variant}
    {content : Content} {form : Form} {value : Json} (layout : kind.layout = .choice name variants)
    (known : ⟨tag, content⟩ ∈ variants) (beside : content.form? = some form)
    (inner : HasForm form value) : HasForm (.value (.term kind)) (.object [(tag, value)]) := by
  intro depth
  have written : write depth (.object [(tag, value)]) [] =
      braced (newline (depth + 1)) (writtenMember (depth + 1) (tag, value)).text
        (newline depth) := by
    simp only [write, writeMembers]
    rw [write_append]
    simp [braced, writtenMember, MemberText.text]
  rw [written]
  exact .tagged layout known beside (inner (depth + 1)) (spellsString_writeString tag)
    (blanks_newline (depth + 1)) .nil blanks_space (blanks_newline depth)

/-- A term of which there is one kind of construct only has the form of a record, with no tag around
it. -/
theorem hasForm_untagged {kind : Kind} {name : String} {fields : List Field} {value : Json}
    (layout : kind.layout = .record name fields) (inner : HasForm (.record fields) value) :
    HasForm (.value (.term kind)) value :=
  fun depth => .untagged layout (inner depth)

end SlotLang.Json
