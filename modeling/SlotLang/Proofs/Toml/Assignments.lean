import SlotLang.Machine.Value
import SlotLang.Proofs.Toml.Integers
import SlotLang.Toml.Document

/-!
# Lines that assign integers

A text of lines, each of them a bare key, an equals sign and an integer, is read as a table with an
entry for each line, in the order of the lines. An entry says where its key and its value are
written.
-/

namespace SlotLang.Toml

open Json (integerText integerText_head)

/-! ## Lines and texts -/

/-- A line that assigns an integer to a key. -/
structure Assignment where
  /-- The key. -/
  key : String
  /-- The integer. -/
  value : Int64
  /-- There is a key. -/
  nonempty : key ≠ ""
  /-- The key needs no quotes. -/
  bare : key.toList.all fun c => c.isAlphanum || c == '_' || c == '-'

namespace Assignment

/-- The line as it is written. -/
def text (line : Assignment) : List Char :=
  line.key.toList ++ (" = ".toList ++ (decimal line.value).toList)

/-- Lines with a line feed between each two. -/
def join (lines : List Assignment) : List Char :=
  ['\n'].intercalate (lines.map text)

/-- What follows a line in front of other lines: a line feed and these lines, if there are any. -/
def following : List Assignment → List Char
  | [] => []
  | lines => '\n' :: join lines

/-- A text of lines is its first line and what follows it, where nothing follows the last one. -/
theorem join_cons (line : Assignment) (rest : List Assignment) :
    join (line :: rest) = line.text ++ following rest := by
  cases rest with
  | nil => simp [join, following]
  | cons next rest => simp [join, following, List.intercalate_cons_cons]

/-- What follows a line begins with a line feed or is nothing, so the integer of the line is read to
its end. -/
theorem lineEnds_following (rest : List Assignment) : LineEnds (following rest) := by
  cases rest with
  | nil => exact .text
  | cons next rest => exact .line _

/-- The text from the equals sign on, with the blank before it. -/
def afterKey (line : Assignment) (rest : List Assignment) : List Char :=
  ' ' :: '=' :: ' ' :: (integerText line.value ++ following rest)

/-- A text of lines begins with the key of the first. -/
theorem join_cons_eq (line : Assignment) (rest : List Assignment) :
    join (line :: rest) = line.key.toList ++ line.afterKey rest := by
  simp [join_cons, text, afterKey, integerText, decimal]

/-- Where the key is written. -/
def keyExtent (line : Assignment) (rest : List Assignment) : Extent :=
  ⟨join (line :: rest), line.afterKey rest⟩

/-- Where the value is written. -/
def valueExtent (line : Assignment) (rest : List Assignment) : Extent :=
  ⟨integerText line.value ++ following rest, following rest⟩

/-- The entry of a line in front of other lines. What follows is part of it, because extents are
said by the text from where they start. -/
def entry (line : Assignment) (rest : List Assignment) : Key × Item :=
  (⟨line.key, line.keyExtent rest⟩,
    .value (.integer line.value.toInt) (line.valueExtent rest))

/-- The entries of lines. -/
def entries : List Assignment → Entries
  | [] => []
  | line :: rest => line.entry rest :: entries rest

/-! ## Keys -/

/-- A key consists of characters that need no quotes. -/
theorem isBare_of_mem_key {line : Assignment} {c : Char} (member : c ∈ line.key.toList) :
    isBare c = true :=
  List.all_eq_true.mp line.bare c member

/-- A line starts with a character of its key. -/
theorem exists_head_join (line : Assignment) (rest : List Assignment) :
    ∃ c others, join (line :: rest) = c :: others ∧ isBare c = true := by
  rw [join_cons_eq]
  cases chars : line.key.toList with
  | nil => exact absurd (String.toList_eq_nil_iff.mp chars) line.nonempty
  | cons c others => exact ⟨c, _, rfl, isBare_of_mem_key (chars ▸ List.mem_cons_self)⟩

/-- A character of a bare key is no other character. -/
theorem ne_of_isBare {c mark : Char} (bare : isBare c = true) (other : isBare mark = false) :
    c ≠ mark := by
  rintro rfl
  rw [bare] at other
  cases other

/-- So it is taken as far as it goes, up to the blank before the equals sign, and no character of it
is left. -/
theorem takeWhile_isBare (line : Assignment) (rest : List Assignment) :
    (join (line :: rest)).takeWhile isBare = line.key.toList := by
  rw [join_cons_eq, List.takeWhile_append_of_pos fun _ => isBare_of_mem_key, afterKey,
    List.takeWhile_cons_of_neg (by decide), List.append_nil]

/-- No blank stands in front of a line. -/
theorem skipBlanks_join (line : Assignment) (rest : List Assignment) :
    skipBlanks (join (line :: rest)) = join (line :: rest) := by
  obtain ⟨c, others, starts, bare⟩ := line.exists_head_join rest
  have notBlank : c ≠ ' ' ∧ c ≠ '\t' :=
    ⟨ne_of_isBare bare (by decide), ne_of_isBare bare (by decide)⟩
  simp [starts, skipBlanks, notBlank]

/-- The key is read up to the blank after it. -/
theorem readKeyChars?_join (line : Assignment) (rest : List Assignment) (bound : Nat) :
    readKeyChars? bound (join (line :: rest)) = some (line.key.toList, line.afterKey rest) := by
  have taken := line.takeWhile_isBare rest
  have dropped : (join (line :: rest)).drop line.key.toList.length = line.afterKey rest := by
    rw [join_cons_eq, List.drop_left]
  obtain ⟨c, others, starts, bare⟩ := line.exists_head_join rest
  unfold readKeyChars?
  split
  · next quote => exact absurd (List.cons.inj (starts ▸ quote)).1 (ne_of_isBare bare (by decide))
  · next quote => exact absurd (List.cons.inj (starts ▸ quote)).1 (ne_of_isBare bare (by decide))
  · simp [taken, dropped, line.nonempty]

/-- The key is read, and the blank after it is passed over. -/
theorem readKey?_join (line : Assignment) (rest : List Assignment) (bound : Nat) :
    readKey? (bound + 1) (join (line :: rest)) =
      some (((line.entry rest).1, []),
        '=' :: ' ' :: (integerText line.value ++ following rest)) := by
  have part : readPart? (bound + 1) (join (line :: rest)) =
      some ((line.entry rest).1,
        '=' :: ' ' :: (integerText line.value ++ following rest)) := by
    have blank : skipBlanks (line.afterKey rest) =
        '=' :: ' ' :: (integerText line.value ++ following rest) := rfl
    simp [readPart?, skipBlanks_join, readKeyChars?_join, entry, keyExtent, blank]
  simp [readKey?, part, readMoreParts?, nestingLimit]

/-! ## Lines -/

/-- A pair is read, and its key bound if it is not bound yet. A key that is bound already would be
refused. -/
theorem readPair?_join (line : Assignment) (rest : List Assignment) (bound : Nat)
    {before : Entries} (fresh : findItem? before line.key = none) :
    readPair? (readValue? (bound + 1) nestingLimit) (bound + 1) before (join (line :: rest)) =
      some ((before ++ [line.entry rest], line.valueExtent rest), following rest) := by
  have value : readValue? (bound + 1) nestingLimit (integerText line.value ++ following rest) =
      some (.integer line.value.toInt, following rest) :=
    readValue?_integerText line.value (lineEnds_following rest) _ _
  have blank : skipBlanks (' ' :: (integerText line.value ++ following rest)) =
      integerText line.value ++ following rest := by
    obtain ⟨c, others, spelled, numeric⟩ := integerText_head line.value
    have notBlank : c ≠ ' ' ∧ c ≠ '\t' := by
      obtain rfl | digit := numeric
      · decide
      · exact ⟨ne_of_isDigit digit (by decide), ne_of_isDigit digit (by decide)⟩
    simp [skipBlanks, spelled, notBlank]
  have inserted : insertPair? (line.entry rest).1 [] (.integer line.value.toInt)
      (line.valueExtent rest) before = some (before ++ [line.entry rest]) := by
    simp [insertPair?, splitLast, atPath?, entry, fresh]
  rw [valueExtent] at inserted ⊢
  simp [readPair?, readKey?_join, readWord?, blank, value, inserted]

/-- A line is read, and the line feed after it. -/
theorem readEntry?_join (line : Assignment) (rest : List Assignment) (bound : Nat)
    {before : Entries} (fresh : findItem? before line.key = none) :
    readEntry? (bound + 1) ⟨[], none, before⟩ (join (line :: rest)) =
      some (⟨[], none, before ++ [line.entry rest]⟩, join rest) := by
  have lineEnd : readLineEnd? (following rest) = some (join rest) := by
    cases rest with
    | nil => rfl
    | cons next rest => rfl
  unfold readEntry?
  simp [readPair?_join line rest bound fresh, lineEnd]

/-- A line adds its entry, and the lines behind it are read with what is left of the bound. -/
theorem readLines?_cons (line : Assignment) (rest : List Assignment) (bound : Nat)
    {before : Entries} (fresh : findItem? before line.key = none) :
    readLines? (bound + 2) ⟨[], none, before⟩ (join (line :: rest)) =
      readLines? (bound + 1) ⟨[], none, before ++ [line.entry rest]⟩ (join rest) := by
  have read := readEntry?_join line rest bound fresh
  obtain ⟨c, others, starts, bare⟩ := line.exists_head_join rest
  have noMark : c ≠ '[' ∧ c ≠ '#' ∧ c ≠ '\n' ∧ c ≠ '\r' :=
    ⟨ne_of_isBare bare (by decide), ne_of_isBare bare (by decide), ne_of_isBare bare (by decide),
      ne_of_isBare bare (by decide)⟩
  rw [readLines?, skipBlanks_join]
  rw [starts] at read ⊢
  simp [noMark, read]

/-! ## Texts -/

/-- Lines with different keys that are not bound yet add their entries. By induction on the lines,
one line for each step of the reader. -/
theorem readLines?_join {lines : List Assignment} (distinct : (lines.map key).Nodup) {bound : Nat}
    (enough : lines.length < bound) {before : Entries}
    (fresh : ∀ line ∈ lines, findItem? before line.key = none) :
    readLines? bound ⟨[], none, before⟩ (join lines) =
      some ⟨[], none, before ++ entries lines⟩ := by
  induction lines generalizing bound before with
  | nil =>
    obtain ⟨bound, rfl⟩ : ∃ left, bound = left + 1 := ⟨bound - 1, by omega⟩
    simp [readLines?, join, skipBlanks, entries]
  | cons line rest inductionHypothesis =>
    -- One step of the bound is for this line, and one for what is left when no line is.
    obtain ⟨bound, rfl⟩ : ∃ left, bound = left + 2 :=
      ⟨bound - 2, by rw [List.length_cons] at enough; omega⟩
    rw [List.map_cons, List.nodup_cons] at distinct
    have freshLater : ∀ other ∈ rest,
        findItem? (before ++ [line.entry rest]) other.key = none := by
      intro other member
      have different : line.key ≠ other.key := fun same =>
        distinct.1 (List.mem_map.mpr ⟨other, member, same.symm⟩)
      have free := fresh other (List.mem_cons_of_mem line member)
      simp only [findItem?, Option.map_eq_none_iff] at free ⊢
      rw [List.find?_append, free]
      simp [entry, different]
    rw [readLines?_cons line rest bound (fresh line List.mem_cons_self),
      inductionHypothesis distinct.2 (by rw [List.length_cons] at enough; omega) freshLater,
      entries, List.append_assoc]
    rfl

/-- A text has at least as many characters as lines, so a bound on its length is large enough for
reading it line by line. -/
theorem length_le_length_join (lines : List Assignment) :
    lines.length ≤ (join lines).length := by
  induction lines with
  | nil => exact Nat.zero_le _
  | cons line rest inductionHypothesis =>
    have following : (join rest).length ≤ (following rest).length := by
      cases rest with
      | nil => exact Nat.le_refl _
      | cons next rest => exact Nat.le_succ _
    rw [join_cons_eq, afterKey]
    simp only [List.length_append, List.length_cons]
    omega

/-- Lines with different keys are read as a table with their entries. -/
theorem read?_join {lines : List Assignment} (distinct : (lines.map key).Nodup) :
    read? (join lines) = some (entries lines) := by
  have noMark : dropMark (join lines) = join lines := by
    cases lines with
    | nil => rfl
    | cons line rest =>
      obtain ⟨c, others, starts, bare⟩ := line.exists_head_join rest
      have different : c ≠ '\ufeff' := ne_of_isBare bare (by decide)
      simp [starts, dropMark, different]
  have read : readLines? ((join lines).length + 1) ⟨[], none, []⟩ (join lines) =
      some ⟨[], none, [] ++ entries lines⟩ :=
    readLines?_join distinct (Nat.lt_succ_of_le (length_le_length_join lines)) fun _ _ => rfl
  simp [read?, noMark, read, Draft.finish?]

end Assignment

end SlotLang.Toml
