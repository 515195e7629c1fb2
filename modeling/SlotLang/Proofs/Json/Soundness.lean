import SlotLang.Proofs.Json.Reading
import SlotLang.Proofs.Json.SoundTokens

/-!
# Only what is spelled is read

Whatever a reader hands back, the text that it has taken is a spelling of it. Together with the
converse, that every spelling is read, this says exactly which texts are read and as what. The
induction is on the reader's bound: the reader of the values inside is taken to be sound.
-/

namespace SlotLang.Json

/-- A spelling of the value stands at the front of a text, with blanks before it. -/
def Taken (form : Form) (value : Json) (text rest : List Char) : Prop :=
  ∃ blanks body, Blanks blanks ∧ Spells form value body ∧ text = blanks ++ (body ++ rest)

/-- Only spellings of values are read as values. -/
def ReadsOnlySpellings (read : ShapeReader) : Prop :=
  ∀ {shape text value rest}, read shape text = .ok (value, rest) →
    Taken (.value shape) value text rest

/-! ## Brackets -/

/-- A piece that stands where an item was found is the next of the pieces. -/
theorem LaidOut.of_nextItem {first : Bool} {text later blanks piece after rest : List Char}
    {pieces : List (List Char)} (found : nextItem first text = .ok (some later))
    (blank : Blanks blanks) (same : later = blanks ++ (piece ++ after))
    (others : LaidOut false pieces after rest) : LaidOut first (piece :: pieces) text rest := by
  unfold nextItem at found
  split at found
  · simp at found
  · simp at found
  · next skipped =>
    split at found
    · next isFirst =>
      obtain rfl := Option.some.inj (Except.ok.inj found)
      exact .cons (isFirst ▸ skipped) blank same others
    · next notFirst =>
      obtain rfl : first = false := by simpa using notFirst
      split at found
      · next comma =>
        subst comma
        split at found
        · simp at found
        · simp at found
        · obtain rfl := Option.some.inj (Except.ok.inj found)
          obtain ⟨more, moreBlank, start⟩ := exists_blanks same
          rw [← List.append_assoc] at start
          exact .cons skipped (moreBlank.append blank) start others
      · simp at found

/-- A member whose key was found is the next of the pieces. -/
theorem LaidOut.of_nextMember {first : Bool} {text later piece after rest : List Char}
    {pieces : List (List Char)} (found : nextMember first text = .ok (some later))
    (same : '"' :: later = piece ++ after)
    (others : LaidOut false pieces after rest) : LaidOut first (piece :: pieces) text rest := by
  unfold nextMember at found
  split at found
  · simp at found
  · simp at found
  · next skipped =>
    split at found
    · next isFirst =>
      split at found
      · next quote =>
        subst quote
        obtain rfl := Option.some.inj (Except.ok.inj found)
        exact .cons (isFirst ▸ skipped) .nil same others
      · simp at found
    · next notFirst =>
      obtain rfl : first = false := by simpa using notFirst
      split at found
      · next comma =>
        subst comma
        split at found
        · simp at found
        · simp at found
        · next skippedMore =>
          obtain ⟨more, moreBlank, start⟩ := exists_blanks skippedMore
          obtain rfl := Option.some.inj (Except.ok.inj found)
          exact .cons skipped moreBlank (same ▸ start) others
        · simp at found
      · simp at found

/-- Where a closing bracket is found, only blanks stand before it. -/
theorem of_findClose {close : Char} {text rest : List Char}
    (found : findClose close text = (none, rest)) :
    ∃ blanks, Blanks blanks ∧ text = blanks ++ close :: rest := by
  unfold findClose at found
  split at found
  · simp at found
  · next skipped =>
    split at found
    · next isClose =>
      cases found
      subst isClose
      exact exists_blanks skipped
    · split at found
      · split at found <;> simp at found
      · simp at found

/-- A bracket is finished by its closing bracket only. -/
theorem of_closed {α : Type} {close : Char} {inside : Except Failure (α × List Char)} {value : α}
    {rest : List Char} (done : closed close inside = .ok (value, rest)) :
    ∃ blanks, Blanks blanks ∧ inside = .ok (value, blanks ++ close :: rest) := by
  unfold closed at done
  split at done
  · split at done
    · next found =>
      cases done
      obtain ⟨blanks, blank, rfl⟩ := of_findClose found
      exact ⟨blanks, blank, rfl⟩
    · simp at done
  · simp at done
  · cases done

variable {read : ShapeReader} (sound : ReadsOnlySpellings read)

include sound

/-! ## Lists -/

/-- Items that are read are spelled one after the other, with a comma between any two. The induction
is on the bound, which counts the items that may still come. -/
theorem of_readItems {item : Shape} {bound : Nat} {first : Bool} {text rest : List Char}
    {items : List Json} (done : readItems read item bound first text = .ok (items, rest)) :
    ∃ pieces : List (Json × List Char), items = pieces.map Prod.fst ∧
      (∀ piece ∈ pieces, Spells (.value item) piece.1 piece.2) ∧
      LaidOut first (pieces.map Prod.snd) text rest := by
  induction bound generalizing first text items with
  | zero => simp [readItems] at done
  | succ bound inductionHypothesis =>
    obtain ⟨found, start, done⟩ := bind_eq_ok.mp done
    cases found with
    | none =>
      cases done
      exact ⟨[], rfl, List.forall_mem_nil _, .none first _⟩
    | some later =>
      obtain ⟨⟨value, after⟩, readItem, done⟩ := bind_eq_ok.mp done
      obtain ⟨⟨values, final⟩, readOthers, done⟩ := bind_eq_ok.mp done
      cases done
      obtain ⟨blanks, body, blank, spelled, same⟩ := sound readItem
      obtain ⟨pieces, rfl, others, laidOut⟩ := inductionHypothesis readOthers
      exact ⟨(value, body) :: pieces, rfl, List.forall_mem_cons.mpr ⟨spelled, others⟩,
        .of_nextItem start blank same laidOut⟩

/-- The places of a row are read in order, each a spelling of its own shape, and no place is left
out. -/
theorem of_readRow {what : String} {expected got : Nat} {shapes : List Shape}
    {text rest : List Char} {items : List Json}
    (done : readRow read what expected got shapes text = .ok (items, rest)) :
    ∃ places : List (Shape × Json × List Char), shapes = places.map (·.1) ∧
      items = places.map (·.2.1) ∧ (∀ place ∈ places, Spells (.value place.1) place.2.1 place.2.2) ∧
      LaidOut (got == 0) (places.map (·.2.2)) text rest := by
  induction shapes generalizing got text items with
  | nil =>
    cases done
    exact ⟨[], rfl, rfl, List.forall_mem_nil _, .none _ _⟩
  | cons shape shapes inductionHypothesis =>
    obtain ⟨found, start, done⟩ := bind_eq_ok.mp done
    cases found with
    | none => cases done
    | some later =>
      obtain ⟨⟨value, after⟩, readItem, done⟩ := bind_eq_ok.mp done
      obtain ⟨⟨values, final⟩, readOthers, done⟩ := bind_eq_ok.mp done
      cases done
      obtain ⟨blanks, body, blank, spelled, same⟩ := sound readItem
      obtain ⟨places, rfl, rfl, others, laidOut⟩ := inductionHypothesis readOthers
      exact ⟨(shape, value, body) :: places, rfl, rfl, List.forall_mem_cons.mpr ⟨spelled, others⟩,
        .of_nextItem start blank same laidOut⟩

/-- What is read as a list of fixed length, after its opening bracket, is as many items as there are
shapes, each spelled in its own. -/
theorem of_closed_readRow {what : String} {expected : Nat} {shapes : List Shape}
    {text rest : List Char} {items : List Json}
    (done : closed ']' (readRow read what expected 0 shapes text) = .ok (items, rest)) :
    ∃ inside, Spells (.row shapes) (.list items) ('[' :: inside) ∧ text = inside ++ rest := by
  obtain ⟨blanks, blank, done⟩ := of_closed done
  obtain ⟨places, rfl, rfl, each, body, separated, rfl⟩ := of_readRow sound done
  exact ⟨_, .row each separated blank, by simp⟩

/-- What is taken as a list spells one, with its brackets and with blanks where they may be. -/
theorem of_readList {item : Shape} {bound : Nat} {text rest : List Char} {value : Json}
    (done : readList read item bound text = .ok (value, rest)) :
    Taken (.value (.list item)) value text rest := by
  unfold readList at done
  split at done
  · simp at done
  · next skipped =>
    obtain ⟨blanks, blank, rfl⟩ := exists_blanks skipped
    obtain ⟨⟨items, final⟩, inside, done⟩ := bind_eq_ok.mp done
    cases done
    obtain ⟨last, lastBlank, inside⟩ := of_closed inside
    obtain ⟨pieces, rfl, each, body, separated, rfl⟩ := of_readItems sound inside
    exact ⟨blanks, _, blank, .list each separated lastBlank, by simp⟩
  · simp at done

/-! ## Records -/

/-- The entries of a record's object are what their names say, and no field is given twice. By
induction on the bound, one entry for each step. -/
theorem of_readMembers {fields : List Field} {bound : Nat} {first : Bool}
    {got result : List (String × Json)} {text rest : List Char}
    (done : readMembers read fields bound first got text = .ok (result, rest))
    (distinct : (got.map Prod.fst).Nodup) :
    ∃ entries : List Entry, result = collect entries got ∧
      (∀ entry ∈ entries, entry.Fits (fun shape => Spells (.value shape)) fields) ∧
      (result.map Prod.fst).Nodup ∧ LaidOut first (entries.map (·.member.text)) text rest := by
  induction bound generalizing first got text with
  | zero => simp [readMembers] at done
  | succ bound inductionHypothesis =>
    obtain ⟨found, start, done⟩ := bind_eq_ok.mp done
    cases found with
    | none =>
      cases done
      exact ⟨[], rfl, List.forall_mem_nil _, distinct, .none first _⟩
    | some later =>
      obtain ⟨⟨key, afterKey⟩, readKey, keyed⟩ := bind_eq_ok.mp done
      obtain ⟨keyText, spelledKey, rfl⟩ := of_readString readKey
      dsimp only at keyed
      split at keyed
      · cases keyed
      · next fresh =>
        obtain ⟨afterColon, readColon, valued⟩ := bind_eq_ok.mp keyed
        obtain ⟨before, blankBefore, rfl⟩ := of_readColon readColon
        have fresh : key ∉ got.map Prod.fst := by
          simpa [List.lookup_eq_none_iff] using fresh
        split at valued
        · next field known =>
          obtain ⟨⟨value, afterValue⟩, readValue, others⟩ := bind_eq_ok.mp valued
          obtain ⟨after, valueText, blankAfter, spelledValue, rfl⟩ := sound readValue
          obtain rfl : field.name = key := by simpa using List.find?_some known
          obtain ⟨entries, rfl, fit, distinctResult, laidOut⟩ := inductionHypothesis others
            (by simpa using ⟨by simpa using fresh, distinct⟩)
          refine ⟨⟨field.name, ⟨'"' :: keyText, before, after, valueText⟩, some (field, value)⟩ ::
            entries, ?_, List.forall_mem_cons.mpr ⟨?_, fit⟩, distinctResult,
            .of_nextMember start (by simp [MemberText.text]) laidOut⟩
          · rw [collect_cons]
            rfl
          · refine ⟨⟨spelledKey, blankBefore, blankAfter⟩, ?_, fun absent => by cases absent⟩
            rintro pair ⟨⟩
            exact ⟨rfl, known, spelledValue⟩
        · next unknown =>
          obtain ⟨afterValue, passed, others⟩ := bind_eq_ok.mp valued
          obtain ⟨after, valueText, blankAfter, isValue, rfl⟩ :=
            passesOnlyValues_skipValue bound passed
          obtain ⟨entries, rfl, fit, distinctResult, laidOut⟩ := inductionHypothesis others distinct
          refine ⟨⟨key, ⟨'"' :: keyText, before, after, valueText⟩, none⟩ :: entries,
            ?_, List.forall_mem_cons.mpr ⟨?_, fit⟩, distinctResult,
            .of_nextMember start (by simp [MemberText.text]) laidOut⟩
          · rw [collect_cons]
            rfl
          · refine ⟨⟨spelledKey, blankBefore, blankAfter⟩, ?_, fun _ => ⟨unknown, isValue⟩⟩
            rintro pair ⟨⟩

omit sound in
/-- All fields of a record have been collected, and they are handed back in the order of the
record. -/
theorem of_inOrder {got : List (String × Json)} {text : List Char} {fields : List Field}
    {members : List (String × Json)} (done : inOrder got text fields = .ok members) :
    ∃ filled : List (Field × Json), fields = filled.map Prod.fst ∧
      members = filled.map (fun pair => (pair.1.name, pair.2)) ∧
      ∀ pair ∈ filled, got.lookup pair.1.name = some pair.2 := by
  induction fields generalizing members with
  | nil =>
    cases done
    exact ⟨[], rfl, rfl, List.forall_mem_nil _⟩
  | cons field fields inductionHypothesis =>
    simp only [inOrder] at done
    split at done
    · cases done
    · next value found =>
      obtain ⟨others, ordered, same⟩ := bind_eq_ok.mp done
      cases same
      obtain ⟨filled, rfl, rfl, all⟩ := inductionHypothesis ordered
      exact ⟨(field, value) :: filled, rfl, rfl, List.forall_mem_cons.mpr ⟨found, all⟩⟩

omit sound in
/-- What was collected from entries are the values of the fields, each once. The text may have them
in any order, so this is a permutation. -/
theorem perm_filled {entries : List Entry} {filled : List (Field × Json)}
    (fit : ∀ entry ∈ entries,
      entry.Fits (fun shape => Spells (.value shape)) (filled.map Prod.fst))
    (distinct : (filled.map (·.1.name)).Nodup)
    (collected : ((collect entries []).map Prod.fst).Nodup)
    (found : ∀ pair ∈ filled, (collect entries []).lookup pair.1.name = some pair.2) :
    (entries.filterMap Entry.filling).Perm filled := by
  have pairs : (entries.filterMap Entry.filling).map (fun pair => (pair.1.name, pair.2)) =
      (collect entries []).reverse := by
    rw [collect, List.append_nil, List.reverse_reverse, List.map_filterMap]
    rfl
  have lookup := Buckets.lookup_eq_some_iff collected
  have gathered {pair : Field × Json} (inside : pair ∈ entries.filterMap Entry.filling) :
      (collect entries []).lookup pair.1.name = some pair.2 := by
    rw [lookup, ← List.mem_reverse, ← pairs]
    exact List.mem_map_of_mem inside
  -- An entry that fills a field holds what was collected for the field.
  have among {pair : Field × Json} (inside : pair ∈ entries.filterMap Entry.filling) :
      pair ∈ filled := by
    obtain ⟨entry, listed, filling⟩ := List.mem_filterMap.mp inside
    obtain ⟨_, known, _⟩ := (fit entry listed).field pair filling
    obtain ⟨given, isField, sameField⟩ := List.mem_map.mp (List.mem_of_find?_eq_some known)
    have value := found given isField
    rw [sameField, gathered inside] at value
    have same : pair = given := Prod.ext sameField.symm (Option.some.inj value)
    rwa [same]
  have distinctFilling : (entries.filterMap Entry.filling).Nodup := by
    apply List.Nodup.of_map fun pair => (pair.1.name, pair.2)
    rw [pairs, List.nodup_reverse]
    exact List.Nodup.of_map _ collected
  refine (List.perm_ext_iff_of_nodup distinctFilling (List.Nodup.of_map _ distinct)).mpr
    fun pair => ⟨among, fun isField => ?_⟩
  have value := found pair isField
  rw [lookup, ← List.mem_reverse, ← pairs] at value
  obtain ⟨other, inside, same⟩ := List.mem_map.mp value
  have sameName : other.1.name = pair.1.name := congrArg Prod.fst same
  rwa [← List.inj_on_of_nodup_map distinct (among inside) isField sameName]

/-- What is taken as a record spells it, as a list of its fields or as an object. The names of the
fields have to be distinct, or an object could not fill them all. -/
theorem of_readRecord {bound : Nat} {what : String} {fields : List Field} {text rest : List Char}
    {value : Json} (distinct : (fields.map Field.name).Nodup)
    (done : readRecord read bound what fields text = .ok (value, rest)) :
    Taken (.record fields) value text rest := by
  unfold readRecord at done
  split at done
  · simp at done
  · next skipped =>
    obtain ⟨blanks, blank, rfl⟩ := exists_blanks skipped
    obtain ⟨⟨values, final⟩, row, same⟩ := bind_eq_ok.mp done
    cases same
    obtain ⟨inside, spelled, rfl⟩ := of_closed_readRow sound row
    exact ⟨blanks, _, blank, .positional spelled, rfl⟩
  · next skipped =>
    obtain ⟨blanks, blank, rfl⟩ := exists_blanks skipped
    obtain ⟨⟨members, final⟩, object, same⟩ := bind_eq_ok.mp done
    cases same
    obtain ⟨last, lastBlank, inside⟩ := of_closed object
    obtain ⟨⟨got, afterMembers⟩, collected, ordered⟩ := bind_eq_ok.mp inside
    obtain ⟨inOrder, ordered, same⟩ := bind_eq_ok.mp ordered
    cases same
    obtain ⟨entries, rfl, fit, distinctNames, body, separated, rfl⟩ :=
      of_readMembers sound collected List.nodup_nil
    obtain ⟨filled, rfl, rfl, found⟩ := of_inOrder ordered
    rw [List.map_map] at distinct
    have all := perm_filled fit distinct distinctNames found
    refine ⟨blanks, _, blank, .named distinct all ?_ ?_ ?_ ?_ separated lastBlank, by simp⟩
    · exact fun entry inside => (fit entry inside).spelled
    · exact fun entry inside pair given => ((fit entry inside).field pair given).1
    · exact fun entry inside pair given => ((fit entry inside).field pair given).2.2
    · intro entry inside absent
      obtain ⟨unknown, isValue⟩ := (fit entry inside).other absent
      refine ⟨?_, isValue⟩
      intro named
      obtain ⟨pair, isField, same⟩ := List.mem_map.mp named
      refine List.find?_eq_none.mp unknown pair.1 (List.mem_map_of_mem isField) ?_
      exact beq_iff_eq.mpr same
  · simp at done

/-! ## Tags -/

omit sound in
/-- A tag that is found is that of a variant, and comes with the content that the variant has. -/
theorem of_findTag {variants : List Variant} {tag : String} {rest : List Char} {content : Content}
    (found : findTag variants tag rest = .ok content) : ⟨tag, content⟩ ∈ variants := by
  unfold findTag at found
  split at found
  · next variant known =>
    cases found
    have same : variant.tag = tag := by simpa using List.find?_some known
    rw [← same]
    exact List.mem_of_find?_eq_some known
  · simp at found

/-- What is read beside a tag: null for a variant without content, and else a spelling of the
content. -/
theorem of_readContent {bound : Nat} {name tag : String} {content : Content}
    {text rest : List Char} {value : Option Json} (distinct : content.fieldNames.Nodup)
    (done : readContent read bound name tag content text = .ok (value, rest)) :
    (content = .unit ∧ value = none ∧
      ∃ blanks, Blanks blanks ∧ text = blanks ++ (['n', 'u', 'l', 'l'] ++ rest)) ∨
    ∃ form inner, content.form? = some form ∧ value = some inner ∧ Taken form inner text rest := by
  cases content with
  | unit =>
    simp only [readContent] at done
    split at done
    · simp at done
    · next skipped =>
      obtain ⟨blanks, blank, rfl⟩ := exists_blanks skipped
      obtain ⟨final, word, same⟩ := bind_eq_ok.mp done
      cases same
      exact .inl ⟨rfl, rfl, blanks, blank, by rw [eq_of_readWord word]; rfl⟩
    · simp at done
  | single shape =>
    obtain ⟨⟨inner, final⟩, readInner, same⟩ := bind_eq_ok.mp done
    cases same
    exact .inr ⟨_, inner, rfl, rfl, sound readInner⟩
  | row shapes =>
    simp only [readContent] at done
    split at done
    · simp at done
    · next skipped =>
      obtain ⟨blanks, blank, rfl⟩ := exists_blanks skipped
      obtain ⟨⟨items, final⟩, row, same⟩ := bind_eq_ok.mp done
      cases same
      obtain ⟨inside, spelled, rfl⟩ := of_closed_readRow sound row
      exact .inr ⟨_, _, rfl, rfl, blanks, _, blank, spelled, rfl⟩
    · simp at done
  | record fields =>
    obtain ⟨⟨inner, final⟩, readInner, same⟩ := bind_eq_ok.mp done
    cases same
    exact .inr ⟨_, inner, rfl, rfl, of_readRecord sound distinct readInner⟩

/-- What is taken as one of several variants spells one of them: as a tag alone, as an object with
null, or as an object with the content. -/
theorem of_readChoice {bound : Nat} {kind : Kind} {name : String} {variants : List Variant}
    {text rest : List Char} {value : Json} (layout : kind.layout = .choice name variants)
    (done : readChoice read bound name variants text = .ok (value, rest)) :
    Taken (.value (.term kind)) value text rest := by
  unfold readChoice at done
  split at done
  · simp at done
  · next skipped =>
    obtain ⟨blanks, blank, rfl⟩ := exists_blanks skipped
    obtain ⟨⟨tag, final⟩, readTag, alone⟩ := bind_eq_ok.mp done
    obtain ⟨content, found, alone⟩ := bind_eq_ok.mp alone
    obtain ⟨tagText, spelled, rfl⟩ := of_readString readTag
    cases content with
    | unit =>
      cases alone
      exact ⟨blanks, _, blank, .tag layout (of_findTag found) spelled, rfl⟩
    | single | row | record => cases alone
  · next skipped =>
    obtain ⟨blanks, blank, rfl⟩ := exists_blanks skipped
    split at done
    · simp at done
    · next skippedMore =>
      obtain ⟨more, moreBlank, rfl⟩ := exists_blanks skippedMore
      obtain ⟨⟨tag, afterTag⟩, readTag, checked⟩ := bind_eq_ok.mp done
      obtain ⟨content, found, separated⟩ := bind_eq_ok.mp checked
      obtain ⟨afterColon, readColon, opened⟩ := bind_eq_ok.mp separated
      obtain ⟨⟨inner, afterContent⟩, readInner, ended⟩ := bind_eq_ok.mp opened
      obtain ⟨tagText, spelled, rfl⟩ := of_readString readTag
      obtain ⟨before, blankBefore, rfl⟩ := of_readColon readColon
      have known := of_findTag found
      have distinct := nodup_fieldNames layout _ known
      dsimp only at ended
      split at ended
      · simp at ended
      · next closing =>
        cases ended
        obtain ⟨last, lastBlank, rfl⟩ := exists_blanks closing
        obtain ⟨rfl, rfl, after, blankAfter, rfl⟩ |
          ⟨form, inner, beside, rfl, after, body, blankAfter, spelledInner, rfl⟩ :=
          of_readContent sound distinct readInner
        · exact ⟨blanks, _, blank, .tagNull layout known spelled moreBlank blankBefore blankAfter
            lastBlank, by simp [braced, MemberText.text]⟩
        · exact ⟨blanks, _, blank, .tagged layout known beside spelledInner spelled moreBlank
            blankBefore blankAfter lastBlank, by simp [braced, MemberText.text]⟩
      · simp at ended
    · simp at done
    · simp at done
  · simp at done

omit sound

/-! ## Whole texts -/

/-- No record without a tag has two fields of one name. There are finitely many kinds, and each is
checked. -/
theorem nodup_recordNames {kind : Kind} {name : String} {fields : List Field}
    (layout : kind.layout = .record name fields) : (fields.map Field.name).Nodup := by
  cases kind <;> cases layout
  decide

/-- What is taken as a text spells it, in front of what is left. -/
theorem of_readText {bound : Nat} {text rest : List Char} {value : Json}
    (done : readText bound text = .ok (value, rest)) : Taken (.value .text) value text rest := by
  unfold readText at done
  split at done
  · simp at done
  · next skipped =>
    obtain ⟨blanks, blank, rfl⟩ := exists_blanks skipped
    obtain ⟨⟨string, final⟩, readInside, same⟩ := bind_eq_ok.mp done
    cases same
    obtain ⟨body, spelled, rfl⟩ := of_readString readInside
    exact ⟨blanks, _, blank, .text spelled, rfl⟩
  · simp at done

/-- Whatever is read is spelled. The induction is on the bound, which is spent on what is inside a
bracket. -/
theorem readsOnlySpellings_readWithin (bound : Nat) : ReadsOnlySpellings (readWithin bound) := by
  induction bound with
  | zero =>
    intro shape text value rest done
    simp [readWithin] at done
  | succ bound inductionHypothesis =>
    intro shape text value rest done
    simp only [readWithin] at done
    cases shape with
    | text => exact of_readText done
    | integer =>
      obtain ⟨blanks, n, blank, rfl, rfl⟩ := of_readInteger done
      exact ⟨blanks, _, blank, .integer n, rfl⟩
    | list item => exact of_readList inductionHypothesis done
    | term kind =>
      simp only [readShape] at done
      split at done
      · next layout => exact of_readChoice inductionHypothesis layout done
      · next layout =>
        obtain ⟨blanks, body, blank, spelled, rfl⟩ :=
          of_readRecord inductionHypothesis (nodup_recordNames layout) done
        exact ⟨blanks, body, blank, .untagged layout spelled, rfl⟩

/-- Exactly the spellings of a value are read as the value. Both directions are needed: that
spellings are read says what is accepted, and that nothing else is says what is refused. -/
theorem readAll_eq_ok_iff {shape : Shape} {value : Json} {text : List Char} :
    readAll shape text = .ok value ↔ SpellsWhole shape value text := by
  constructor
  · intro done
    obtain ⟨⟨found, rest⟩, readValue, ended⟩ := bind_eq_ok.mp done
    obtain ⟨blanks, body, blank, spelled, same⟩ := readsOnlySpellings_readWithin _ readValue
    dsimp only at ended
    split at ended
    · next skipped =>
      cases ended
      obtain ⟨more, moreBlank, rest⟩ := exists_blanks skipped
      rw [List.append_nil] at rest
      subst rest
      rw [same]
      exact .mk blank spelled moreBlank
    · simp at ended
  · exact readAll_of_spells

end SlotLang.Json
