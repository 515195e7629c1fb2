import SlotLang.Proofs.Json.Passing

/-!
# How terms may be spelled

The texts of a shape's values, by rules of their own and not by what a reader does. A record is an
object that has each of its fields once, in any order, and may have members besides; or it is the
list of its fields' values. A tag stands alone if nothing goes with it, or with `null` beside it;
every other tag is the key of what goes with it.
-/

namespace SlotLang.Json

/-- What a text stands for: a value of a shape, a list of fixed length, or a record. The last two
have no shape of their own and stand where a layout says so. -/
inductive Form where
  /-- A value of a shape. -/
  | value (shape : Shape)
  /-- Items in brackets, each of its own shape. -/
  | row (shapes : List Shape)
  /-- Members in braces, for fields in any order. -/
  | record (fields : List Field)

/-- What stands beside a tag, if anything does. A tag without content needs nothing beside it. -/
def Content.form? : Content → Option Form
  | unit => none
  | single shape => some (.value shape)
  | row shapes => some (.row shapes)
  | record fields => some (.record fields)

/-- A member of a record's object: its key and its text, and if it is one of the record's fields,
the field and the field's value. -/
structure Entry where
  /-- The name that the key spells. -/
  name : String
  /-- The key and the value as they stand in the text. -/
  member : MemberText
  /-- The field that the entry fills and the value that fills it, or none. -/
  filling : Option (Field × Json)

/-- An entry's key is spelled as the text has it, with blanks on both sides of the colon. -/
structure Entry.Spelled (entry : Entry) : Prop where
  /-- The key spells the name. -/
  key : SpellsString entry.name entry.member.key
  /-- Blanks in front of the colon. -/
  before : Blanks entry.member.before
  /-- Blanks behind it. -/
  after : Blanks entry.member.after

/-- A text in braces, with blanks inside them. -/
def braced (blanks member moreBlanks : List Char) : List Char :=
  '\x7b' :: (blanks ++ (member ++ (moreBlanks ++ ['\x7d'])))

/-- What a value may be spelled as. Blanks, the spelling of strings and the order of fields are
free; so are members that no field is named by. -/
inductive Spells : Form → Json → List Char → Prop where
  /-- A string. -/
  | text {value : String} {text : List Char} (spelled : SpellsString value text) :
      Spells (.value .text) (.string value) text
  /-- An integer. -/
  | integer (n : Int64) : Spells (.value .integer) (.int n) (integerText n)
  /-- A list. -/
  | list {item : Shape} {pieces : List (Json × List Char)} {body blanks : List Char}
      (each : ∀ piece ∈ pieces, Spells (.value item) piece.1 piece.2)
      (separated : Separated true (pieces.map Prod.snd) body) (blank : Blanks blanks) :
      Spells (.value (.list item)) (.list (pieces.map Prod.fst))
        ('[' :: (body ++ (blanks ++ [']'])))
  /-- A list of fixed length. -/
  | row {places : List (Shape × Json × List Char)} {body blanks : List Char}
      (each : ∀ place ∈ places, Spells (.value place.1) place.2.1 place.2.2)
      (separated : Separated true (places.map (·.2.2)) body) (blank : Blanks blanks) :
      Spells (.row (places.map (·.1))) (.list (places.map (·.2.1)))
        ('[' :: (body ++ (blanks ++ [']'])))
  /-- A record as the list of its fields' values. -/
  | positional {fields : List Field} {values : List Json} {text : List Char}
      (inner : Spells (.row (fields.map Field.shape)) (.list values) text) :
      Spells (.record fields) (.object ((fields.map Field.name).zip values)) text
  /-- A record as an object. -/
  | named {filled : List (Field × Json)} {entries : List Entry} {body blanks : List Char}
      (distinct : (filled.map (·.1.name)).Nodup)
      (all : (entries.filterMap Entry.filling).Perm filled)
      (spelled : ∀ entry ∈ entries, entry.Spelled)
      (matching : ∀ entry ∈ entries, ∀ pair, entry.filling = some pair → pair.1.name = entry.name)
      (each : ∀ entry ∈ entries, ∀ pair, entry.filling = some pair →
        Spells (.value pair.1.shape) pair.2 entry.member.value)
      (other : ∀ entry ∈ entries, entry.filling = none →
        entry.name ∉ filled.map (·.1.name) ∧ ValueText entry.member.value)
      (separated : Separated true (entries.map (·.member.text)) body) (blank : Blanks blanks) :
      Spells (.record (filled.map Prod.fst))
        (.object (filled.map fun pair => (pair.1.name, pair.2)))
        ('\x7b' :: (body ++ (blanks ++ ['\x7d'])))
  /-- A tag alone. -/
  | tag {kind : Kind} {name tag : String} {variants : List Variant} {text : List Char}
      (layout : kind.layout = .choice name variants) (known : ⟨tag, .unit⟩ ∈ variants)
      (spelled : SpellsString tag text) : Spells (.value (.term kind)) (.string tag) text
  /-- A tag alone, with `null` beside it. -/
  | tagNull {kind : Kind} {name tag : String} {variants : List Variant}
      {key before after blanks moreBlanks : List Char}
      (layout : kind.layout = .choice name variants) (known : ⟨tag, .unit⟩ ∈ variants)
      (spelled : SpellsString tag key) (blank : Blanks blanks) (blankBefore : Blanks before)
      (blankAfter : Blanks after) (moreBlank : Blanks moreBlanks) :
      Spells (.value (.term kind)) (.string tag)
        (braced blanks (MemberText.text ⟨key, before, after, ['n', 'u', 'l', 'l']⟩) moreBlanks)
  /-- A tag and what goes with it. -/
  | tagged {kind : Kind} {name tag : String} {variants : List Variant} {content : Content}
      {form : Form} {value : Json} {key before after text blanks moreBlanks : List Char}
      (layout : kind.layout = .choice name variants) (known : ⟨tag, content⟩ ∈ variants)
      (beside : content.form? = some form) (inner : Spells form value text)
      (spelled : SpellsString tag key) (blank : Blanks blanks) (blankBefore : Blanks before)
      (blankAfter : Blanks after) (moreBlank : Blanks moreBlanks) :
      Spells (.value (.term kind)) (.object [(tag, value)])
        (braced blanks (MemberText.text ⟨key, before, after, text⟩) moreBlanks)
  /-- A term that is a record. -/
  | untagged {kind : Kind} {name : String} {fields : List Field} {value : Json} {text : List Char}
      (layout : kind.layout = .record name fields) (inner : Spells (.record fields) value text) :
      Spells (.value (.term kind)) value text

/-- The spelling of a whole text: a value, with blanks before and after it, and nothing else. -/
inductive SpellsWhole (shape : Shape) (value : Json) : List Char → Prop where
  | mk {blanks text moreBlanks : List Char} (blank : Blanks blanks)
      (spelled : Spells (.value shape) value text) (moreBlank : Blanks moreBlanks) :
      SpellsWhole shape value (blanks ++ (text ++ moreBlanks))

/-- A spelled string starts with a quote. -/
theorem SpellsString.head {value : String} {text : List Char} (spelled : SpellsString value text) :
    ∃ rest, text = '"' :: rest := by
  cases spelled
  exact ⟨_, rfl⟩

/-- A spelled value does not start with a blank or a closing bracket. By cases on the form, as each
has its first character. -/
theorem Spells.opens {form : Form} {value : Json} {text : List Char}
    (spelled : Spells form value text) : Opens text := by
  induction spelled with
  | text spelled | tag _ _ spelled =>
    obtain ⟨rest, rfl⟩ := spelled.head
    exact ⟨_, _, rfl, by decide, by decide, by decide⟩
  | integer n =>
    obtain ⟨c, rest, spelled, numeric⟩ := integerText_head n
    rw [spelled]
    exact opens_of_number numeric rest
  | list | row | named | tagNull | tagged => exact ⟨_, _, rfl, by decide, by decide, by decide⟩
  | positional _ inductionHypothesis | untagged _ _ inductionHypothesis =>
    exact inductionHypothesis

end SlotLang.Json
