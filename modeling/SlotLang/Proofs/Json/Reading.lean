import Mathlib.Data.List.Nodup
import SlotLang.Proofs.Json.Spelling
import SlotLang.Proofs.Table.Lookup

/-!
# Reading what is spelled

However a value is spelled, the reader gives the value and leaves what follows it. The induction is
on the spelling. A reader's bound need only be greater than the length of the text that it is given:
each step into a bracket shortens the text by the bracket, and each piece by at least one character.
-/

namespace SlotLang.Json

/-- Wherever a text stands, in a text shorter than the limit, it is read as the value. It may have
blanks in front of it, and what follows must end a number. -/
def ReadsAs {α : Type} (read : List Char → Except Failure (α × List Char)) (limit : Nat)
    (value : α) (text : List Char) : Prop :=
  ∀ blanks rest, Blanks blanks → Stops rest → (blanks ++ (text ++ rest)).length < limit →
    read (blanks ++ (text ++ rest)) = .ok (value, rest)

variable {read : ShapeReader} {limit : Nat}

/-! ## Lists -/

/-- The items of a list are read up to its closing bracket, and handed back in order. -/
theorem readItems_append {item : Shape} {pieces : List (Json × List Char)}
    (reads : ∀ piece ∈ pieces, ReadsAs (read item) limit piece.1 piece.2)
    (opens : ∀ piece ∈ pieces, Opens piece.2) {first : Bool} {body blanks rest : List Char}
    (separated : Separated first (pieces.map Prod.snd) body) (blank : Blanks blanks) {bound : Nat}
    (within : (body ++ (blanks ++ ']' :: rest)).length < limit)
    (enough : (body ++ (blanks ++ ']' :: rest)).length < bound) :
    readItems read item bound first (body ++ (blanks ++ ']' :: rest)) =
      .ok (pieces.map Prod.fst, blanks ++ ']' :: rest) := by
  induction pieces generalizing first body bound with
  | nil =>
    cases separated
    obtain ⟨bound, rfl⟩ : ∃ left, bound = left + 1 := ⟨bound - 1, by omega⟩
    simp [readItems, nextItem_close blank]
  | cons piece pieces inductionHypothesis =>
    obtain ⟨readsPiece, reads⟩ := List.forall_mem_cons.mp reads
    obtain ⟨opensPiece, opens⟩ := List.forall_mem_cons.mp opens
    obtain ⟨bound, rfl⟩ : ∃ left, bound = left + 1 := ⟨bound - 1, by omega⟩
    obtain ⟨later, others, shorter, found⟩ := nextItem_append separated opensPiece
    obtain ⟨c, text, opened, -⟩ := opensPiece
    have room : 0 < piece.2.length := by simp [opened]
    have ends : Stops (blanks ++ ']' :: rest) := .append blank (.cons (by decide) rest)
    simp only [List.length_append] at within enough
    have readPiece := readsPiece [] (later ++ (blanks ++ ']' :: rest)) .nil (others.stops ends)
      (by simp only [List.length_append, List.length_nil]; omega)
    have readOthers := @inductionHypothesis reads opens false later others bound
      (by simp only [List.length_append]; omega) (by simp only [List.length_append]; omega)
    rw [List.nil_append] at readPiece
    simp [readItems, found, readPiece, readOthers]

/-- The items of a list of fixed length are read, each by its own shape. How many have been read is
counted, because a refusal would say it. -/
theorem readRow_append {places : List (Shape × Json × List Char)}
    (reads : ∀ place ∈ places, ReadsAs (read place.1) limit place.2.1 place.2.2)
    (opens : ∀ place ∈ places, Opens place.2.2) {got : Nat} {body blanks rest : List Char}
    (separated : Separated (got == 0) (places.map (·.2.2)) body) (blank : Blanks blanks)
    (within : (body ++ (blanks ++ ']' :: rest)).length < limit) (what : String) (expected : Nat) :
    readRow read what expected got (places.map (·.1)) (body ++ (blanks ++ ']' :: rest)) =
      .ok (places.map (·.2.1), blanks ++ ']' :: rest) := by
  induction places generalizing got body with
  | nil =>
    rw [separated.eq_nil]
    rfl
  | cons place places inductionHypothesis =>
    obtain ⟨readsPlace, reads⟩ := List.forall_mem_cons.mp reads
    obtain ⟨opensPlace, opens⟩ := List.forall_mem_cons.mp opens
    simp only [List.map_cons] at separated
    obtain ⟨later, others, shorter, found⟩ := nextItem_append separated opensPlace
    have ends : Stops (blanks ++ ']' :: rest) := .append blank (.cons (by decide) rest)
    simp only [List.length_append] at within
    have readPlace := readsPlace [] (later ++ (blanks ++ ']' :: rest)) .nil (others.stops ends)
      (by simp only [List.length_append, List.length_nil]; omega)
    have readOthers := @inductionHypothesis reads opens (got + 1) later others
      (by simp only [List.length_append]; omega)
    rw [List.nil_append] at readPlace
    simp [readRow, found, readPlace, readOthers]

/-! ## Objects -/

/-- What an entry adds to the fields that are collected. An unknown name adds nothing. -/
def Entry.collected (entry : Entry) : Option (String × Json) :=
  entry.filling.map fun pair => (pair.1.name, pair.2)

/-- An entry of a record's object is what its name says: a field, whose text is related to its value
as its shape asks for, or no field. -/
structure Entry.Fits (texts : Shape → Json → List Char → Prop) (fields : List Field)
    (entry : Entry) : Prop where
  /-- The key is spelled. -/
  spelled : entry.Spelled
  /-- If the entry fills a field, then the field that is found by its name, with a value of its
  shape. -/
  field : ∀ pair, entry.filling = some pair → pair.1.name = entry.name ∧
    fields.find? (·.name == entry.name) = some pair.1 ∧
    texts pair.1.shape pair.2 entry.member.value
  /-- If it fills none, then no field has its name, and any value will do. -/
  other : entry.filling = none → fields.find? (·.name == entry.name) = none ∧
    ValueText entry.member.value

/-- The reader of a record's object finds an entry to be what it is. -/
abbrev Entry.Readable (read : ShapeReader) (limit : Nat) (fields : List Field) (entry : Entry) :
    Prop :=
  entry.Fits (fun shape => ReadsAs (read shape) limit) fields

/-- One entry of a record's object is read: if it is a field it is collected. A field must not have
been collected before, or it would be refused as given twice. -/
theorem readMembers_step {fields : List Field} {entry : Entry}
    (readable : entry.Readable read limit fields) {first : Bool} {body : List Char}
    {pieces : List (List Char)} (separated : Separated first (entry.member.text :: pieces) body)
    {got : List (String × Json)} (fresh : got.lookup entry.name = none) {bound : Nat}
    {tail : List Char} (stops : Stops tail) (within : (body ++ tail).length < limit)
    (enough : (body ++ tail).length < bound + 1) :
    ∃ later, Separated false pieces later ∧ later.length < body.length ∧
      readMembers read fields (bound + 1) first got (body ++ tail) =
        readMembers read fields bound false (entry.collected.toList ++ got) (later ++ tail) := by
  obtain ⟨name, ⟨key, before, after, value⟩, filling⟩ := entry
  obtain ⟨⟨spelled, blankBefore, blankAfter⟩, field, other⟩ := readable
  obtain ⟨text, rfl⟩ := spelled.head
  simp only [MemberText.text, List.cons_append] at separated
  obtain ⟨later, others, shorter, found⟩ := nextMember_append separated
  refine ⟨later, others, by omega, ?_⟩
  simp only [List.length_append, List.length_cons] at within enough shorter
  have room : text.length ≤ bound := by omega
  have readKey := readString_append spelled room
    (before ++ ':' :: (after ++ (value ++ (later ++ tail))))
  have readColon := readColon_append blankBefore (after ++ (value ++ (later ++ tail)))
  have start : nextMember first (body ++ tail) =
      .ok (some (text ++ (before ++ ':' :: (after ++ (value ++ (later ++ tail)))))) := by
    rw [found tail]
    simp
  cases filling with
  | none =>
    obtain ⟨unknown, form⟩ := other rfl
    have passed := passes_skipValue form bound after (later ++ tail) blankAfter (others.stops stops)
      (by simp only [List.length_append]; omega)
    simp [readMembers, start, readKey, fresh, readColon, unknown, passed, Entry.collected]
  | some pair =>
    obtain ⟨rfl, known, reads⟩ := field pair rfl
    have readValue := reads after (later ++ tail) blankAfter (others.stops stops)
      (by simp only [List.length_append]; omega)
    simp [readMembers, start, readKey, fresh, readColon, known, readValue, Entry.collected]

/-- The fields that are collected after some entries, the last first. Their order in the text is
forgotten later. -/
def collect (entries : List Entry) (got : List (String × Json)) : List (String × Json) :=
  (entries.filterMap Entry.collected).reverse ++ got

/-- An entry is collected before those that come after it, so the entries collected last stand
first. -/
theorem collect_cons (entry : Entry) (entries : List Entry) (got : List (String × Json)) :
    collect (entry :: entries) got = collect entries (entry.collected.toList ++ got) := by
  cases collected : entry.collected <;> simp [collect, collected]

/-- What is collected at first is collected in the end. -/
theorem mem_collect (entries : List Entry) {got : List (String × Json)} {pair : String × Json}
    (collected : pair ∈ got) : pair ∈ collect entries got :=
  List.mem_append_right _ collected

/-- A name that was not collected is not found among what was. -/
theorem lookup_eq_none_of_not_mem {got : List (String × Json)} {name : String}
    (absent : name ∉ got.map Prod.fst) : got.lookup name = none := by
  rw [List.lookup_eq_none_iff]
  intro pair inside
  rw [bne_iff_ne]
  rintro rfl
  exact absent (List.mem_map.mpr ⟨pair, inside, rfl⟩)

/-- The entries of a record's object are read up to its closing brace, and its fields collected. -/
theorem readMembers_append {fields : List Field} {entries : List Entry}
    (readable : ∀ entry ∈ entries, entry.Readable read limit fields)
    {got : List (String × Json)} (distinct : ((collect entries got).map Prod.fst).Nodup)
    (other : ∀ entry ∈ entries, entry.filling = none →
      entry.name ∉ (collect entries got).map Prod.fst)
    {first : Bool} {body blanks rest : List Char}
    (separated : Separated first (entries.map (·.member.text)) body) (blank : Blanks blanks)
    {bound : Nat} (within : (body ++ (blanks ++ '\x7d' :: rest)).length < limit)
    (enough : (body ++ (blanks ++ '\x7d' :: rest)).length < bound) :
    readMembers read fields bound first got (body ++ (blanks ++ '\x7d' :: rest)) =
      .ok (collect entries got, blanks ++ '\x7d' :: rest) := by
  induction entries generalizing first got body bound with
  | nil =>
    obtain ⟨bound, rfl⟩ : ∃ left, bound = left + 1 := ⟨bound - 1, by omega⟩
    simp [readMembers, separated.eq_nil, nextMember_close blank, collect]
  | cons entry entries inductionHypothesis =>
    obtain ⟨readableEntry, readable⟩ := List.forall_mem_cons.mp readable
    obtain ⟨bound, rfl⟩ : ∃ left, bound = left + 1 := ⟨bound - 1, by omega⟩
    have ends : Stops (blanks ++ '\x7d' :: rest) := .append blank (.cons (by decide) rest)
    -- Taking the entry over leaves what will have been collected in the end as it is, so what is
    -- assumed of the whole is again what the induction asks of the rest.
    rw [collect_cons] at distinct other ⊢
    have fresh : got.lookup entry.name = none := by
      apply lookup_eq_none_of_not_mem
      intro given
      cases filled : entry.filling with
      | none =>
        obtain ⟨pair, inside, named⟩ := List.mem_map.mp given
        have collected := mem_collect entries (List.mem_append_right entry.collected.toList inside)
        exact other entry (List.mem_cons_self ..) filled (List.mem_map.mpr ⟨pair, collected, named⟩)
      | some pair =>
        have named := (readableEntry.field pair filled).1
        simp only [collect, Entry.collected, filled, List.map_append, Option.map_some,
          Option.toList_some, List.singleton_append, List.map_cons, named] at distinct
        exact (List.nodup_cons.mp distinct.of_append_right).1 given
    simp only [List.map_cons] at separated
    obtain ⟨later, others, shorter, step⟩ :=
      readMembers_step readableEntry separated fresh ends within enough
    rw [step]
    rw [List.length_append] at within enough
    exact inductionHypothesis readable distinct (List.forall_mem_of_forall_mem_cons other) others
      (by rw [List.length_append]; omega) (by rw [List.length_append]; omega)

/-- Fields that were collected are put in the order of their declaration. -/
theorem inOrder_eq {got : List (String × Json)} {filled : List (Field × Json)}
    (found : ∀ pair ∈ filled, got.lookup pair.1.name = some pair.2) (text : List Char) :
    inOrder got text (filled.map Prod.fst) =
      .ok (filled.map fun pair => (pair.1.name, pair.2)) := by
  induction filled with
  | nil => rfl
  | cons pair filled inductionHypothesis =>
    obtain ⟨foundPair, found⟩ := List.forall_mem_cons.mp found
    simp [inOrder, foundPair, inductionHypothesis found]

/-- A field is found by its name, where names are not repeated; so is a variant by its tag. -/
theorem find?_of_mem {α : Type} {name : α → String} {choices : List α}
    (distinct : (choices.map name).Nodup) {choice : α} (inside : choice ∈ choices) :
    choices.find? (name · == name choice) = some choice := by
  induction choices with
  | nil => cases inside
  | cons first choices inductionHypothesis =>
    rw [List.map_cons, List.nodup_cons] at distinct
    rcases List.mem_cons.mp inside with rfl | inside
    · simp
    · have different : name first ≠ name choice := fun same =>
        distinct.1 (same ▸ List.mem_map_of_mem inside)
      simp [different, inductionHypothesis distinct.2 inside]

/-- What is collected from a record's entries is the record's fields, each with its value. -/
theorem lookup_collect {entries : List Entry} {filled : List (Field × Json)}
    (distinct : (filled.map (·.1.name)).Nodup)
    (all : (entries.filterMap Entry.filling).Perm filled) :
    ((collect entries []).map Prod.fst).Perm (filled.map (·.1.name)) ∧
      ∀ pair ∈ filled, (collect entries []).lookup pair.1.name = some pair.2 := by
  have same : (collect entries []).Perm (filled.map fun pair => (pair.1.name, pair.2)) := by
    have mapped := all.map fun pair => (pair.1.name, pair.2)
    rw [List.map_filterMap] at mapped
    rw [collect, List.append_nil]
    exact (List.reverse_perm _).trans mapped
  have names := same.map Prod.fst
  rw [List.map_map] at names
  refine ⟨names, fun pair inside => ?_⟩
  rw [Buckets.lookup_eq_some_iff (names.nodup_iff.mpr distinct)]
  exact same.mem_iff.mpr (List.mem_map.mpr ⟨pair, inside, rfl⟩)

/-! ## Forms -/

/-- A text of a form is read as the value. What reads a list of fixed length depends on what the
list stands for, so of that only the inside is said to be read. -/
def Form.Reads : Form → Json → List Char → Prop
  | .value shape, meant, text => ∀ bound, ReadsAs (readWithin bound shape) bound meant text
  | .row shapes, meant, text =>
    ∃ inside values, text = '[' :: inside ∧ meant = .list values ∧
      ∀ bound what expected rest, (inside ++ rest).length < bound →
        closed ']' (readRow (readWithin bound) what expected 0 shapes (inside ++ rest)) =
          .ok (values, rest)
  | .record fields, meant, text =>
    ∀ bound what, ReadsAs (readRecord (readWithin bound) bound what fields) (bound + 1) meant text

/-- A text is read from whatever spells it, with short escapes, with numbers, or plainly. -/
theorem reads_text {value : String} {text : List Char} (spelled : SpellsString value text) :
    (Form.value .text).Reads (.string value) text := by
  intro bound blanks rest blank _ within
  obtain ⟨bound, rfl⟩ : ∃ left, bound = left + 1 := ⟨bound - 1, by omega⟩
  obtain ⟨text, rfl⟩ := spelled.head
  simp only [List.length_append, List.length_cons] at within
  have room : text.length ≤ bound := by omega
  have readValue := readString_append spelled room rest
  simp [readWithin, readShape, readText, readValue, skipBlanks_append_cons blank, isBlank]

/-- An integer is read from its one spelling. -/
theorem reads_integer (n : Int64) : (Form.value .integer).Reads (.int n) (integerText n) := by
  intro bound blanks rest blank stops within
  obtain ⟨bound, rfl⟩ : ∃ left, bound = left + 1 := ⟨bound - 1, by omega⟩
  exact readInteger_append blank n stops bound

/-- A list is read between its brackets, item by item, with blanks wherever they may stand. The
items may be of any number. -/
theorem reads_list {item : Shape} {pieces : List (Json × List Char)} {body blanks : List Char}
    (reads : ∀ piece ∈ pieces, (Form.value item).Reads piece.1 piece.2)
    (opens : ∀ piece ∈ pieces, Opens piece.2)
    (separated : Separated true (pieces.map Prod.snd) body) (blank : Blanks blanks) :
    (Form.value (.list item)).Reads (.list (pieces.map Prod.fst))
      ('[' :: (body ++ (blanks ++ [']']))) := by
  intro bound spaces rest spaced _ within
  obtain ⟨bound, rfl⟩ : ∃ left, bound = left + 1 := ⟨bound - 1, by omega⟩
  simp only [List.length_append, List.length_cons, List.length_nil] at within
  have shorter : (body ++ (blanks ++ ']' :: rest)).length < bound := by
    simp only [List.length_append, List.length_cons]
    omega
  have readItems := readItems_append (fun piece inside => reads piece inside bound) opens separated
    blank shorter shorter
  simp [readWithin, readShape, readList, readItems, skipBlanks_append_cons spaced,
    closed_append blank, isBlank]

/-- A list of fixed length is read place by place, each by the shape of its place, and the closing
bracket has to come after the last. -/
theorem reads_row {places : List (Shape × Json × List Char)} {body blanks : List Char}
    (reads : ∀ place ∈ places, (Form.value place.1).Reads place.2.1 place.2.2)
    (opens : ∀ place ∈ places, Opens place.2.2)
    (separated : Separated true (places.map (·.2.2)) body) (blank : Blanks blanks) :
    (Form.row (places.map (·.1))).Reads (.list (places.map (·.2.1)))
      ('[' :: (body ++ (blanks ++ [']']))) := by
  refine ⟨_, _, rfl, rfl, fun bound what expected rest within => ?_⟩
  have begun : Separated ((0 : Nat) == 0) (places.map (·.2.2)) body := separated
  simp only [List.append_assoc, List.singleton_append] at within ⊢
  rw [readRow_append (fun place inside => reads place inside bound) opens begun blank within,
    closed_append blank (by decide)]

/-- A record may be spelled as a list of its fields in order. It is read as the object that has them
by their names. -/
theorem reads_positional {fields : List Field} {values : List Json} {text : List Char}
    (reads : (Form.row (fields.map Field.shape)).Reads (.list values) text) :
    (Form.record fields).Reads (.object ((fields.map Field.name).zip values)) text := by
  intro bound what blanks rest blank _ within
  obtain ⟨inside, values, rfl, same, readRow⟩ := reads
  cases same
  simp only [List.length_append, List.length_cons] at within
  have readValues := readRow bound what fields.length rest
    (by simp only [List.length_append]; omega)
  simp [readRecord, readValues, skipBlanks_append_cons blank, isBlank]

/-- A record may be spelled as an object. Its fields may come in any order, and other members may
stand among them, whose values are passed over; what is read has the fields in their own order. -/
theorem reads_named {filled : List (Field × Json)} {entries : List Entry} {body blanks : List Char}
    (distinct : (filled.map (·.1.name)).Nodup)
    (all : (entries.filterMap Entry.filling).Perm filled)
    (spelled : ∀ entry ∈ entries, entry.Spelled)
    (matching : ∀ entry ∈ entries, ∀ pair, entry.filling = some pair → pair.1.name = entry.name)
    (reads : ∀ entry ∈ entries, ∀ pair, entry.filling = some pair →
      (Form.value pair.1.shape).Reads pair.2 entry.member.value)
    (other : ∀ entry ∈ entries, entry.filling = none →
      entry.name ∉ filled.map (·.1.name) ∧ ValueText entry.member.value)
    (separated : Separated true (entries.map (·.member.text)) body) (blank : Blanks blanks) :
    (Form.record (filled.map Prod.fst)).Reads
      (.object (filled.map fun pair => (pair.1.name, pair.2)))
      ('\x7b' :: (body ++ (blanks ++ ['\x7d']))) := by
  intro bound what spaces rest spaced _ within
  obtain ⟨names, found⟩ := lookup_collect distinct all
  have fieldNames : (filled.map Prod.fst).map Field.name = filled.map (·.1.name) := by
    rw [List.map_map]
    rfl
  have readable : ∀ entry ∈ entries,
      entry.Readable (readWithin bound) bound (filled.map Prod.fst) := by
    intro entry inside
    refine ⟨spelled entry inside, fun pair filling => ?_, fun filling => ?_⟩
    · have named := matching entry inside pair filling
      have field : pair ∈ filled := all.mem_iff.mp (List.mem_filterMap.mpr ⟨entry, inside, filling⟩)
      refine ⟨named, ?_, reads entry inside pair filling bound⟩
      rw [← named]
      exact find?_of_mem (fieldNames ▸ distinct) (List.mem_map_of_mem field)
    · obtain ⟨absent, form⟩ := other entry inside filling
      refine ⟨?_, form⟩
      rw [List.find?_eq_none]
      intro field isField same
      rw [← fieldNames] at absent
      exact absent (List.mem_map.mpr ⟨field, isField, eq_of_beq same⟩)
  simp only [List.length_append, List.length_cons, List.length_nil] at within
  have shorter : (body ++ (blanks ++ '\x7d' :: rest)).length < bound := by
    simp only [List.length_append, List.length_cons]
    omega
  have readMembers := readMembers_append readable (names.nodup_iff.mpr distinct)
    (fun entry inside filling => fun given =>
      (other entry inside filling).1 (names.mem_iff.mp given))
    separated blank shorter shorter
  simp [readRecord, readMembers, inOrder_eq found, skipBlanks_append_cons spaced,
    closed_append blank, isBlank]

/-! ## Tags -/

/-- No tag belongs to two variants of a kind. -/
theorem nodup_tags {kind : Kind} {name : String} {variants : List Variant}
    (layout : kind.layout = .choice name variants) : (variants.map Variant.tag).Nodup := by
  cases kind <;> cases layout <;> decide

/-- The names of the fields that go with a tag. -/
def Content.fieldNames : Content → List String
  | .record fields => fields.map Field.name
  | _ => []

/-- No record that goes with a tag has two fields of one name. -/
theorem nodup_fieldNames {kind : Kind} {name : String} {variants : List Variant}
    (layout : kind.layout = .choice name variants) :
    ∀ variant ∈ variants, variant.content.fieldNames.Nodup := by
  cases kind <;> cases layout <;> decide

/-- The content of a tag is found. -/
theorem findTag_of_mem {kind : Kind} {name tag : String} {variants : List Variant}
    {content : Content} (layout : kind.layout = .choice name variants)
    (known : ⟨tag, content⟩ ∈ variants) (rest : List Char) :
    findTag variants tag rest = .ok content := by
  have found := find?_of_mem (nodup_tags layout) known
  simp only at found
  simp [findTag, found]

/-- A variant without content may be spelled as its tag alone. -/
theorem reads_tag {kind : Kind} {name tag : String} {variants : List Variant} {text : List Char}
    (layout : kind.layout = .choice name variants) (known : ⟨tag, .unit⟩ ∈ variants)
    (spelled : SpellsString tag text) :
    (Form.value (.term kind)).Reads (.string tag) text := by
  intro bound blanks rest blank _ within
  obtain ⟨bound, rfl⟩ : ∃ left, bound = left + 1 := ⟨bound - 1, by omega⟩
  obtain ⟨text, rfl⟩ := spelled.head
  simp only [List.length_append, List.length_cons] at within
  have room : text.length ≤ bound := by omega
  have readTag := readString_append spelled room rest
  simp [readWithin, readShape, layout, readChoice, readTag, findTag_of_mem layout known,
    skipBlanks_append_cons blank, isBlank]

/-- What stands beside a tag is read. -/
theorem readContent_append {content : Content} {form : Form} {value : Json} {text : List Char}
    (beside : content.form? = some form) (reads : form.Reads value text) {bound : Nat}
    {blanks rest : List Char} (blank : Blanks blanks) (stops : Stops rest)
    (within : (blanks ++ (text ++ rest)).length < bound) (name tag : String) :
    readContent (readWithin bound) bound name tag content (blanks ++ (text ++ rest)) =
      .ok (some value, rest) := by
  cases content with
  | unit => cases beside
  | single shape =>
    cases beside
    simp [readContent, reads bound blanks rest blank stops within]
  | row shapes =>
    cases beside
    obtain ⟨inside, values, rfl, rfl, readRow⟩ := reads
    simp only [List.length_append, List.length_cons] at within
    have readValues := readRow bound ("tuple variant " ++ name ++ "::" ++ tag) shapes.length rest
      (by simp only [List.length_append]; omega)
    simp [readContent, readValues, skipBlanks_append_cons blank, isBlank]
  | record fields =>
    cases beside
    have readFields := reads bound ("struct variant " ++ name ++ "::" ++ tag) blanks rest blank
      stops (Nat.lt_succ_of_lt within)
    simp [readContent, readFields]

/-- A tag in braces is read with what its content is read as. -/
theorem readChoice_braced {kind : Kind} {name tag : String} {variants : List Variant}
    {content : Content} (layout : kind.layout = .choice name variants)
    (known : ⟨tag, content⟩ ∈ variants) (member : MemberText)
    (spelled : SpellsString tag member.key) (before : Blanks member.before)
    {spaces blanks moreBlanks rest : List Char}
    (spaced : Blanks spaces) (blank : Blanks blanks) (moreBlank : Blanks moreBlanks) {bound : Nat}
    {value : Option Json} (enough : member.key.length ≤ bound)
    (readValue : readContent (readWithin bound) bound name tag content
      (member.after ++ (member.value ++ (moreBlanks ++ '\x7d' :: rest))) =
        .ok (value, moreBlanks ++ '\x7d' :: rest)) :
    readChoice (readWithin bound) bound name variants
        (spaces ++ (braced blanks member.text moreBlanks ++ rest)) =
      .ok (tagged tag value, rest) := by
  obtain ⟨key, spaceBefore, spaceAfter, text⟩ := member
  obtain ⟨quoted, rfl⟩ := spelled.head
  have readTag := readString_append spelled (Nat.le_of_succ_le enough)
    (spaceBefore ++ ':' :: (spaceAfter ++ (text ++ (moreBlanks ++ '\x7d' :: rest))))
  have readColon := readColon_append before
    (spaceAfter ++ (text ++ (moreBlanks ++ '\x7d' :: rest)))
  simp only [braced, MemberText.text]
  simp [readChoice, readTag, readColon, readValue, findTag_of_mem layout known,
    skipBlanks_append_cons spaced, skipBlanks_append_cons blank, skipBlanks_append_cons moreBlank,
    isBlank]

/-- It may also be spelled as an object with the tag as its key and null as its value. -/
theorem reads_tagNull {kind : Kind} {name tag : String} {variants : List Variant}
    {key before after blanks moreBlanks : List Char}
    (layout : kind.layout = .choice name variants) (known : ⟨tag, .unit⟩ ∈ variants)
    (spelled : SpellsString tag key) (blank : Blanks blanks) (blankBefore : Blanks before)
    (blankAfter : Blanks after) (moreBlank : Blanks moreBlanks) :
    (Form.value (.term kind)).Reads (.string tag)
      (braced blanks (MemberText.text ⟨key, before, after, ['n', 'u', 'l', 'l']⟩) moreBlanks) := by
  intro bound spaces rest spaced _ within
  obtain ⟨bound, rfl⟩ : ∃ left, bound = left + 1 := ⟨bound - 1, by omega⟩
  simp only [braced, MemberText.text, List.length_append, List.length_cons] at within
  have readNull : readContent (readWithin bound) bound name tag .unit
      (after ++ (['n', 'u', 'l', 'l'] ++ (moreBlanks ++ '\x7d' :: rest))) =
        .ok (none, moreBlanks ++ '\x7d' :: rest) := by
    have word := readWord_append ['u', 'l', 'l'] (moreBlanks ++ '\x7d' :: rest)
    simp only [List.cons_append, List.nil_append] at word
    simp [readContent, skipBlanks_append_cons blankAfter, word, isBlank]
  have room : key.length ≤ bound := by omega
  simp only [readWithin, readShape, layout]
  exact readChoice_braced layout known ⟨key, before, after, ['n', 'u', 'l', 'l']⟩ spelled
    blankBefore spaced blank moreBlank room readNull

/-- A tag in braces and what goes with it are read, whatever follows: where the braces end does not
depend on it. -/
theorem readWithin_tagged {kind : Kind} {name tag : String} {variants : List Variant}
    {content : Content} {form : Form} {value : Json}
    {key before after text blanks moreBlanks : List Char}
    (layout : kind.layout = .choice name variants) (known : ⟨tag, content⟩ ∈ variants)
    (beside : content.form? = some form) (reads : form.Reads value text)
    (spelled : SpellsString tag key) (blank : Blanks blanks) (blankBefore : Blanks before)
    (blankAfter : Blanks after) (moreBlank : Blanks moreBlanks) {bound : Nat}
    {spaces rest : List Char} (spaced : Blanks spaces)
    (within : (spaces ++ (braced blanks (MemberText.text ⟨key, before, after, text⟩) moreBlanks ++
      rest)).length < bound) :
    readWithin bound (.term kind)
        (spaces ++ (braced blanks (MemberText.text ⟨key, before, after, text⟩) moreBlanks ++
          rest)) =
      .ok (.object [(tag, value)], rest) := by
  obtain ⟨bound, rfl⟩ : ∃ left, bound = left + 1 := ⟨bound - 1, by omega⟩
  simp only [braced, MemberText.text, List.length_append, List.length_cons, List.length_nil]
    at within
  have shorter : (after ++ (text ++ (moreBlanks ++ '\x7d' :: rest))).length < bound := by
    simp only [List.length_append, List.length_cons]
    omega
  have ends : Stops (moreBlanks ++ '\x7d' :: rest) := .append moreBlank (.cons (by decide) rest)
  have readValue := readContent_append beside reads blankAfter ends shorter name tag
  have room : key.length ≤ bound := by omega
  simp only [readWithin, readShape, layout]
  exact readChoice_braced layout known ⟨key, before, after, text⟩ spelled blankBefore spaced blank
    moreBlank room readValue

/-- A variant with content is spelled as an object with one member, whose key is the tag; the key
may be escaped as any text may. -/
theorem reads_tagged {kind : Kind} {name tag : String} {variants : List Variant}
    {content : Content} {form : Form} {value : Json}
    {key before after text blanks moreBlanks : List Char}
    (layout : kind.layout = .choice name variants) (known : ⟨tag, content⟩ ∈ variants)
    (beside : content.form? = some form) (reads : form.Reads value text)
    (spelled : SpellsString tag key) (blank : Blanks blanks) (blankBefore : Blanks before)
    (blankAfter : Blanks after) (moreBlank : Blanks moreBlanks) :
    (Form.value (.term kind)).Reads (.object [(tag, value)])
      (braced blanks (MemberText.text ⟨key, before, after, text⟩) moreBlanks) :=
  fun _ _ _ spaced _ within =>
    readWithin_tagged layout known beside reads spelled blank blankBefore blankAfter moreBlank
      spaced within

/-- A term of which there is one kind of construct only is spelled as its record. -/
theorem reads_untagged {kind : Kind} {name : String} {fields : List Field} {value : Json}
    {text : List Char} (layout : kind.layout = .record name fields)
    (reads : (Form.record fields).Reads value text) :
    (Form.value (.term kind)).Reads value text := by
  intro bound blanks rest blank stops within
  obtain ⟨bound, rfl⟩ : ∃ left, bound = left + 1 := ⟨bound - 1, by omega⟩
  simp only [readWithin, readShape, layout]
  exact reads bound ("struct " ++ name) blanks rest blank stops within

/-! ## Whole texts -/

/-- Whatever is spelled is read. -/
theorem Spells.reads {form : Form} {value : Json} {text : List Char}
    (spelled : Spells form value text) : form.Reads value text := by
  induction spelled with
  | text spelled => exact reads_text spelled
  | integer n => exact reads_integer n
  | list each separated blank inductionHypothesis =>
    exact reads_list inductionHypothesis (fun piece inside => (each piece inside).opens) separated
      blank
  | row each separated blank inductionHypothesis =>
    exact reads_row inductionHypothesis (fun place inside => (each place inside).opens) separated
      blank
  | positional _ inductionHypothesis => exact reads_positional inductionHypothesis
  | named distinct all spelled matching _ other separated blank inductionHypothesis =>
    exact reads_named distinct all spelled matching inductionHypothesis other separated blank
  | tag layout known spelled => exact reads_tag layout known spelled
  | tagNull layout known spelled blank blankBefore blankAfter moreBlank =>
    exact reads_tagNull layout known spelled blank blankBefore blankAfter moreBlank
  | tagged layout known beside _ spelled blank blankBefore blankAfter moreBlank
      inductionHypothesis =>
    exact reads_tagged layout known beside inductionHypothesis spelled blank blankBefore blankAfter
      moreBlank
  | untagged layout _ inductionHypothesis => exact reads_untagged layout inductionHypothesis

/-- A whole text that spells a value is read as the value. -/
theorem readAll_of_spells {shape : Shape} {value : Json} {text : List Char}
    (spelled : SpellsWhole shape value text) : readAll shape text = .ok value := by
  obtain ⟨blank, spelled, moreBlank⟩ := spelled
  rename_i blanks text moreBlanks
  have stops : Stops moreBlanks := List.append_nil moreBlanks ▸ Stops.append moreBlank .nil
  have readValue := spelled.reads ((blanks ++ (text ++ moreBlanks)).length + 1) blanks moreBlanks
    blank stops (Nat.lt_succ_self _)
  have nothing : skipBlanks moreBlanks = [] := by
    have skipped := skipBlanks_append moreBlank []
    rwa [List.append_nil] at skipped
  simp only [readAll, readValue, ok_bind, nothing]

end SlotLang.Json
