import Mathlib.Data.List.TakeWhile
import SlotLang.Program.Dump
import SlotLang.Proofs.Json.Numbers

/-!
# The tokens of a dump

A dump is made of names, words that are no names, integers, quoted texts and signs. Each of them is
read back from any text that it begins, as long as what follows cannot be taken for more of it.
-/

namespace SlotLang.Dump

/-! ## Signs and names -/

/-- The rest of a text after a sign that it begins with, and none if it does not begin with the
sign. -/
def after (sign : String) (text : List Char) : Option (List Char) :=
  text.dropPrefix? sign.toList

/-- A text that was written behind a sign is what comes after the sign. -/
theorem after_append (sign : String) (rest : List Char) :
    after sign (sign.toList ++ rest) = some rest :=
  List.dropPrefix?_append_of_beq rest (beq_self_eq_true _)

/-- Where no sign is asked for, all of the text comes after it. The first argument of a call is read
like this. -/
theorem after_empty (text : List Char) : after "" text = some text :=
  after_append "" text

/-- A sign is only found where the text begins with it. -/
theorem eq_append_of_after {sign : String} {text rest : List Char}
    (found : after sign text = some rest) : text = sign.toList ++ rest := by
  obtain ⟨begun, split, same⟩ := List.dropPrefix?_eq_some_iff.mp found
  rw [split, eq_of_beq same]

/-- Words that a dump uses itself. -/
def reserved : List String :=
  ["null", "printf", "array", "object", "if", "else", "while", "var", "defn", "method"]

/-- The characters of names: letters, digits and the underscore. -/
def isNameChar (c : Char) : Bool :=
  c.isAlphanum || c == '_'

/-- A word: letters, digits and underscores, the first of them no digit. -/
def IsWord (word : String) : Prop :=
  word ≠ "" ∧ (∀ c ∈ word.toList, isNameChar c = true) ∧
    ∀ c ∈ word.toList.head?, c.isDigit = false

/-- A name that can stand in a dump: a word that is not reserved. -/
def IsName (name : String) : Prop :=
  IsWord name ∧ name ∉ reserved

-- The instances for the parts are named: the search for them may come upon the one that tries
-- every character there is.
/-- Whether a text is a word can be computed, so it can be decided for the words of the language. -/
instance : DecidablePred IsWord := fun _ =>
  @instDecidableAnd _ _ _
    (@instDecidableAnd _ _ (List.decidableBAll _ _) (Option.decidableForallMem _))

/-- So can whether it is a name. -/
instance : DecidablePred IsName :=
  fun _ => inferInstanceAs (Decidable (_ ∧ _))

/-- A text does not go on with a character of names. Where a word ends is found by this and by
nothing else. -/
def WordEnds (rest : List Char) : Prop :=
  ∀ c ∈ rest.head?, isNameChar c = false

/-- The word that a text begins with, and the rest of the text. It is empty if the text begins with
none. -/
def word (text : List Char) : String × List Char :=
  (String.ofList (text.takeWhile isNameChar), text.dropWhile isNameChar)

/-- Characters of one kind are split off up to the first of another kind. -/
theorem split_append {isKind : Char → Bool} {chars rest : List Char}
    (all : ∀ c ∈ chars, isKind c = true) (ends : ∀ c ∈ rest.head?, isKind c = false) :
    (chars ++ rest).takeWhile isKind = chars ∧ (chars ++ rest).dropWhile isKind = rest := by
  rw [List.takeWhile_append_of_pos all, List.dropWhile_append_of_pos all]
  cases rest with
  | nil => simp
  | cons c rest => simp [ends c rfl]

/-- A word is read as far as it goes, if no more letters, digits or underscores follow. -/
theorem word_append {name : String} (isWord : IsWord name) {rest : List Char}
    (ends : WordEnds rest) : word (name.toList ++ rest) = (name, rest) := by
  obtain ⟨taken, dropped⟩ := split_append isWord.2.1 ends
  rw [word, taken, dropped, String.ofList_toList]

/-- A word starts with a character of names that is no digit. -/
theorem IsWord.head {name : String} (isWord : IsWord name) :
    ∃ c others, name.toList = c :: others ∧ isNameChar c = true ∧ c.isDigit = false := by
  obtain ⟨nonempty, chars, start⟩ := isWord
  cases spelled : name.toList with
  | nil => exact absurd (String.toList_eq_nil_iff.mp spelled) nonempty
  | cons c others =>
    rw [spelled] at chars start
    exact ⟨c, others, rfl, chars c List.mem_cons_self, start c rfl⟩

/-! ## Integers -/

/-- The natural number that a text begins with, and the rest of the text. -/
def magnitude (text : List Char) : Nat × List Char :=
  (Nat.ofDigitChars 10 (text.takeWhile Char.isDigit) 0, text.dropWhile Char.isDigit)

/-- The integer that a text begins with, and the rest of the text. It is asked for only where a sign
or a digit stands. -/
def number : List Char → Int64 × List Char
  | '-' :: text => (Int64.ofInt (-(magnitude text).1), (magnitude text).2)
  | text => (Int64.ofInt (magnitude text).1, (magnitude text).2)

/-- Whether a text begins with a sign or a digit. -/
def startsNumber (text : List Char) : Bool :=
  text.head?.any fun c => c == '-' || c.isDigit

/-- A word does not begin as an integer does, so which of the two comes is seen from the first
character. -/
theorem startsNumber_word {name : String} (isWord : IsWord name) (rest : List Char) :
    startsNumber (name.toList ++ rest) = false := by
  obtain ⟨c, others, spelled, named, noDigit⟩ := isWord.head
  have unsigned : c ≠ '-' := by
    rintro rfl
    exact absurd named (by decide)
  simp [startsNumber, spelled, unsigned, noDigit]

/-- The decimal digits of a number are read back as the number, if no more digits follow. -/
theorem magnitude_append (n : Nat) {rest : List Char} (ends : WordEnds rest) :
    magnitude (Nat.toDigits 10 n ++ rest) = (n, rest) := by
  have all : ∀ c ∈ Nat.toDigits 10 n, c.isDigit = true :=
    fun c => Nat.isDigit_of_mem_toDigits (by decide) (by decide)
  have noDigit : ∀ c ∈ rest.head?, c.isDigit = false := by
    intro c first
    have other := ends c first
    simp only [isNameChar, Char.isAlphanum, Bool.or_eq_false_iff] at other
    exact other.1.2
  obtain ⟨taken, dropped⟩ := split_append all noDigit
  rw [magnitude, taken, dropped, Nat.ofDigitChars_toDigits (by decide) (by decide)]

/-- The decimal digits of a number start with a digit. -/
theorem toDigits_head (n : Nat) :
    ∃ c others, Nat.toDigits 10 n = c :: others ∧ c.isDigit = true := by
  cases spelled : Nat.toDigits 10 n with
  | nil => exact absurd spelled Nat.toDigits_ne_nil
  | cons c others =>
    have listed : c ∈ Nat.toDigits 10 n := spelled ▸ List.mem_cons_self
    exact ⟨c, others, rfl, Nat.isDigit_of_mem_toDigits (by decide) (by decide) listed⟩

/-- An integer is read back from its text, with its sign. The smallest one has no positive
counterpart, so sign and digits are put together as an integer without bounds and cut to 64 bits
only then. -/
theorem number_append (n : Int64) {rest : List Char} (ends : WordEnds rest) :
    number ((toString n.toInt).toList ++ rest) = (n, rest) := by
  obtain ⟨size, value, _, spelled⟩ | ⟨size, value, _, _, spelled⟩ := Json.integerText_eq n
  · obtain ⟨c, others, digits, digit⟩ := toDigits_head size
    have unsigned : c ≠ '-' := by
      rintro rfl
      exact absurd digit (by decide)
    have read := magnitude_append size ends
    rw [← Json.integerText, spelled]
    rw [digits, List.cons_append] at read ⊢
    simp [number, unsigned, read, ← value]
  · have read := magnitude_append size ends
    rw [← Json.integerText, spelled]
    simp [number, read, ← value]

/-! ## Quoted texts -/

/-- The character that a text begins with, written as it is between quotes, and the rest of the
text. -/
def unescape : List Char → Option (Char × List Char)
  | '\\' :: '"' :: text => some ('"', text)
  | '\\' :: '\\' :: text => some ('\\', text)
  | '\\' :: 'n' :: text => some ('\n', text)
  | '\\' :: 'r' :: text => some ('\r', text)
  | '\\' :: 't' :: text => some ('\t', text)
  | '\\' :: '0' :: text => some ('\x00', text)
  | '\\' :: 'u' :: '\x7b' :: text => do
    let n ← Json.hexNumber? (text.takeWhile (· != '\x7d'))
    let text ← after "\x7d" (text.dropWhile (· != '\x7d'))
    some (Char.ofNat n, text)
  | c :: text => some (c, text)
  | [] => none

/-- The text up to a closing quote, and the rest after the quote. A quote behind a backslash does
not close it. -/
def unquote : Nat → List Char → Option (List Char × List Char)
  | 0, _ => none
  | _ + 1, '"' :: text => some ([], text)
  | bound + 1, text => do
    let (c, text) ← unescape text
    let (chars, text) ← unquote bound text
    some (c :: chars, text)

/-- One more hexadecimal digit makes a number sixteen times as large and adds the digit. -/
theorem hexNumber?_append {digits : List Char} {n value : Nat} {c : Char}
    (number : Json.hexNumber? digits = some n) (digit : Json.hexValue? c = some value) :
    Json.hexNumber? (digits ++ [c]) = some (16 * n + value) := by
  unfold Json.hexNumber? at number ⊢
  rw [List.foldl_append, number]
  simp [digit]

/-- The hexadecimal digits of a number spell it. -/
theorem hexNumber?_toDigits (n : Nat) : Json.hexNumber? (Nat.toDigits 16 n) = some n := by
  induction n using Nat.strongRecOn with
  | ind n inductionHypothesis =>
    have digit (value : Nat) (small : value < 16) :
        Json.hexValue? (Nat.digitChar value) = some value :=
      Json.hexValue?_of_hexDigit (Json.hexDigit_digitChar small)
    by_cases small : n < 16
    · rw [Nat.toDigits_of_lt_base small]
      simp [Json.hexNumber?, digit n small]
    · rw [Nat.toDigits_of_base_le (by decide) (Nat.le_of_not_lt small),
        hexNumber?_append (inductionHypothesis (n / 16) (by omega))
          (digit (n % 16) (Nat.mod_lt n (by decide))), Nat.div_add_mod]

/-- No hexadecimal digit of a number is a brace. -/
theorem toDigits_ne_brace (n : Nat) : ∀ c ∈ Nat.toDigits 16 n, (c != '\x7d') = true := by
  induction n using Nat.strongRecOn with
  | ind n inductionHypothesis =>
    by_cases small : n < 16
    · rw [Nat.toDigits_of_lt_base small]
      simp
    · rw [Nat.toDigits_of_base_le (by decide) (Nat.le_of_not_lt small)]
      simpa [or_imp, forall_and] using inductionHypothesis (n / 16) (by omega)

/-- The hexadecimal escape of a character is read as the character. -/
theorem unescape_hexDigits (c : Char) (rest : List Char) :
    unescape ('\\' :: 'u' :: '\x7b' :: (Text.hexDigits c.toNat ++ '\x7d' :: rest)) =
      some (c, rest) := by
  have closes : ∀ d ∈ ('\x7d' :: rest).head?, (d != '\x7d') = false := by simp
  obtain ⟨taken, dropped⟩ := split_append (toDigits_ne_brace c.toNat) closes
  have closed : after "\x7d" ('\x7d' :: rest) = some rest := after_append "\x7d" rest
  simp [unescape, Text.hexDigits, taken, dropped, hexNumber?_toDigits, closed]

/-- A character is read back from what it is written as between quotes, whichever of the ways to
write it was taken. -/
theorem unescape_escape (c : Char) (rest : List Char) :
    unescape (Text.escape c ++ rest) = some (c, rest) := by
  unfold Text.escape
  split
  · rfl
  · rfl
  · rfl
  · rfl
  · rfl
  · rfl
  · next noBackslash _ _ _ _ =>
    split
    · rw [List.singleton_append, unescape]
      all_goals
        intros
        simp_all
    · simpa using unescape_hexDigits c rest

/-- What a character is written as does not start with a quote. -/
theorem escape_head (c : Char) : ∃ first others, Text.escape c = first :: others ∧ first ≠ '"' := by
  unfold Text.escape
  split
  · exact ⟨_, _, rfl, by decide⟩
  · exact ⟨_, _, rfl, by decide⟩
  · exact ⟨_, _, rfl, by decide⟩
  · exact ⟨_, _, rfl, by decide⟩
  · exact ⟨_, _, rfl, by decide⟩
  · exact ⟨_, _, rfl, by decide⟩
  · next noQuote _ _ _ _ _ =>
    split
    · exact ⟨_, _, rfl, noQuote⟩
    · exact ⟨_, _, rfl, by decide⟩

/-- A quoted text is read back, with its closing quote. -/
theorem unquote_append (chars rest : List Char) {bound : Nat} (enough : chars.length < bound) :
    unquote bound (chars.flatMap Text.escape ++ '"' :: rest) = some (chars, rest) := by
  induction chars generalizing bound with
  | nil =>
    obtain ⟨bound, rfl⟩ : ∃ left, bound = left + 1 := ⟨bound - 1, by omega⟩
    rfl
  | cons c chars inductionHypothesis =>
    rw [List.length_cons] at enough
    obtain ⟨bound, rfl⟩ : ∃ left, bound = left + 1 := ⟨bound - 1, by omega⟩
    have room : chars.length < bound := by omega
    have first := unescape_escape c (chars.flatMap Text.escape ++ '"' :: rest)
    obtain ⟨head, others, written, noQuote⟩ := escape_head c
    rw [List.flatMap_cons, List.append_assoc]
    rw [written, List.cons_append] at first ⊢
    simp [unquote, noQuote, first, inductionHypothesis room]

end SlotLang.Dump
