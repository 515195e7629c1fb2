import Mathlib.Tactic.IntervalCases
import SlotLang.Json.Chars

/-!
# How blanks and strings may be spelled

Blanks stand in front of tokens, as many as one likes. A character of a string may stand for itself,
unless it is a quote, a backslash or a control character; it may be a letter after a backslash, if
there is one for it; and it may be given by the number of its code unit, or by those of a pair.

Whatever way a string is spelled, reading gives the string and leaves what follows it. The written
form of a string is one of its spellings.
-/

namespace SlotLang.Json

open Text

/-! ## Blanks -/

/-- A text of blanks only. It may be empty, so blanks are optional wherever this is asked for. -/
def Blanks (text : List Char) : Prop :=
  ∀ c ∈ text, isBlank c = true

/-- A text without characters is blank. -/
theorem Blanks.nil : Blanks [] := by
  intro c inside
  cases inside

/-- Blanks in front of a text are passed over. -/
theorem skipBlanks_append {blanks : List Char} (blank : Blanks blanks) (text : List Char) :
    skipBlanks (blanks ++ text) = skipBlanks text :=
  List.dropWhile_append_of_pos blank

/-- Nothing is passed over in front of a character that is no blank. -/
theorem skipBlanks_cons {c : Char} (solid : isBlank c = false) (text : List Char) :
    skipBlanks (c :: text) = c :: text := by
  simp [skipBlanks, solid]

/-- Blanks are passed over up to the first character that is none. -/
theorem skipBlanks_append_cons {blanks : List Char} (blank : Blanks blanks) {c : Char}
    (solid : isBlank c = false) (text : List Char) :
    skipBlanks (blanks ++ c :: text) = c :: text := by
  rw [skipBlanks_append blank, skipBlanks_cons solid]

/-- A word that stands in the text is read, and what follows it is left. -/
theorem readWord_append (word rest : List Char) : readWord word (word ++ rest) = .ok rest := by
  induction word with
  | nil => rfl
  | cons c word inductionHypothesis => simp [readWord, inductionHypothesis]

/-- A colon is read, whatever blanks stand before it. Those behind it are left to what comes
next. -/
theorem readColon_append {blanks : List Char} (blank : Blanks blanks) (rest : List Char) :
    readColon (blanks ++ ':' :: rest) = .ok rest := by
  simp [readColon, skipBlanks_append_cons blank, isBlank]

/-! ## Spellings -/

/-- A hexadecimal digit and its value. The letters may be of either case. -/
def HexDigit (c : Char) (value : Nat) : Prop :=
  "0123456789abcdef".toList[value]? = some c ∨ "0123456789ABCDEF".toList[value]? = some c

/-- Whether a character is a digit of a value can be looked up. -/
instance (c : Char) (value : Nat) : Decidable (HexDigit c value) :=
  inferInstanceAs (Decidable (_ ∨ _))

/-- The four digits of a code unit, the most significant first. -/
inductive SpellsUnit : Nat → List Char → Prop where
  | digits {a b c d : Char} {i j k l : Nat} (first : HexDigit a i) (second : HexDigit b j)
      (third : HexDigit c k) (fourth : HexDigit d l) :
      SpellsUnit (16 * (16 * (16 * i + j) + k) + l) [a, b, c, d]

/-- The letters that may stand after a backslash, and what they mean. The first three mean
themselves, and the others control characters. -/
inductive ShortEscape : Char → Char → Prop where
  | quote : ShortEscape '"' '"'
  | backslash : ShortEscape '\\' '\\'
  | slash : ShortEscape '/' '/'
  | backspace : ShortEscape 'b' '\x08'
  | formFeed : ShortEscape 'f' '\x0c'
  | lineFeed : ShortEscape 'n' '\n'
  | carriageReturn : ShortEscape 'r' '\r'
  | tab : ShortEscape 't' '\t'

/-- Whether a character may stand for itself inside a string. A quote would end it, a backslash
would begin an escape, and control characters are refused. -/
def Plain (c : Char) : Prop :=
  c ≠ '"' ∧ c ≠ '\\' ∧ 0x20 ≤ c.toNat

/-- What a character may be spelled as inside a string: as itself, by a short escape, by a code
unit, or by a pair of them. -/
inductive SpellsChar : Char → List Char → Prop where
  /-- Itself. -/
  | raw {c : Char} (plain : Plain c) : SpellsChar c [c]
  /-- A backslash and a letter. -/
  | short {letter c : Char} (escape : ShortEscape letter c) : SpellsChar c ['\\', letter]
  /-- Its code unit. -/
  | unit {c : Char} {digits : List Char} (spelled : SpellsUnit c.toNat digits) :
      SpellsChar c ('\\' :: 'u' :: digits)
  /-- Both halves of its pair of code units. -/
  | pair {c : Char} {high low : Nat} {digits otherDigits : List Char}
      (spelled : SpellsUnit high digits) (otherSpelled : SpellsUnit low otherDigits)
      (first : 0xd800 ≤ high ∧ high < 0xdc00) (second : 0xdc00 ≤ low ∧ low < 0xe000)
      (joined : c.toNat = 0x10000 + (high - 0xd800) * 0x400 + (low - 0xdc00)) :
      SpellsChar c ('\\' :: 'u' :: (digits ++ '\\' :: 'u' :: otherDigits))

/-- What characters may be spelled as inside a string, one after the other. -/
inductive SpellsChars : List Char → List Char → Prop where
  | nil : SpellsChars [] []
  | cons {c : Char} {chars piece text : List Char} (head : SpellsChar c piece)
      (tail : SpellsChars chars text) : SpellsChars (c :: chars) (piece ++ text)

/-- What a string may be spelled as, its quotes included. A string has many spellings and is the
value of each of them. -/
inductive SpellsString : String → List Char → Prop where
  | quoted {value : String} {text : List Char} (inside : SpellsChars value.toList text) :
      SpellsString value ('"' :: (text ++ ['"']))

/-! ## Reading -/

/-- A reader goes on after what has been read. -/
@[simp] theorem ok_bind {α β : Type} (read : α) (next : α → Except Failure β) :
    (Except.ok read >>= next) = next read :=
  rfl

/-- A hexadecimal digit is read as its value. -/
theorem hexValue?_of_hexDigit {c : Char} {value : Nat} (digit : HexDigit c value) :
    hexValue? c = some value := by
  have small : value < 16 := by
    rcases digit with digit | digit <;> exact (List.getElem?_eq_some_iff.mp digit).1
  simp only [HexDigit] at digit
  interval_cases value <;> simp at digit <;> rcases digit with rfl | rfl <;> decide

/-- Four digits are read as the code unit that they spell. -/
theorem readHex_append {n : Nat} {digits : List Char} (spelled : SpellsUnit n digits)
    (rest : List Char) : readHex (digits ++ rest) = .ok (n, rest) := by
  obtain ⟨first, second, third, fourth⟩ := spelled
  rename_i a b c d i j k l
  have enough : ¬ byteLength [a, b, c, d] < 4 := by
    have sizes := And.intro (Char.utf8Size_pos a) (And.intro (Char.utf8Size_pos b)
      (And.intro (Char.utf8Size_pos c) (Char.utf8Size_pos d)))
    simp only [byteLength, List.foldr_cons, List.foldr_nil]
    omega
  have number : hexNumber? [a, b, c, d] = some (16 * (16 * (16 * i + j) + k) + l) := by
    simp [hexNumber?, hexValue?_of_hexDigit first, hexValue?_of_hexDigit second,
      hexValue?_of_hexDigit third, hexValue?_of_hexDigit fourth]
  simp [readHex, enough, number]

/-- What a letter after a backslash means. -/
theorem shortEscape?_of_shortEscape {letter c : Char} (escape : ShortEscape letter c) :
    shortEscape? letter = some c := by
  cases escape <;> rfl

/-- A character stands for no half of a pair, so its code unit is never taken for the first half of
one. -/
theorem not_surrogate (c : Char) : ¬ (0xd800 ≤ c.toNat ∧ c.toNat < 0xe000) := by
  have valid := c.valid
  simp only [UInt32.isValidChar, Nat.isValidChar, Char.toNat] at valid ⊢
  omega

/-- An escape is read as its character. Of a pair of code units both are read, since the first says
that another follows. -/
theorem readEscape_append {c : Char} {text : List Char} (spelled : SpellsChar c ('\\' :: text))
    (rest : List Char) : readEscape (text ++ rest) = .ok (c, rest) := by
  generalize whole : '\\' :: text = piece at spelled
  cases spelled with
  | raw plain =>
    cases whole
    exact absurd rfl plain.2.1
  | @short letter _ escape =>
    cases whole
    have notUnit : letter ≠ 'u' := by
      rintro rfl
      cases escape
    simp [readEscape, notUnit, shortEscape?_of_shortEscape escape]
  | unit spelled =>
    cases whole
    have apart := not_surrogate c
    have notLow : isLowSurrogate c.toNat = false := by
      simp [isLowSurrogate]
      omega
    have notHigh : isHighSurrogate c.toNat = false := by
      simp [isHighSurrogate]
      omega
    simp [readEscape, readUnicode, readHex_append spelled, notLow, notHigh]
  | @pair _ high low _ _ spelled otherSpelled first second joined =>
    cases whole
    have notLow : isLowSurrogate high = false := by
      simp [isLowSurrogate]
      omega
    have isHigh : isHighSurrogate high = true := by
      simp [isHighSurrogate]
      omega
    have isLow : isLowSurrogate low = true := by
      simp [isLowSurrogate]
      omega
    simp [readEscape, readUnicode, readLowSurrogate, readHex_append spelled,
      readHex_append otherSpelled, notLow, isHigh, isLow, ← joined]

/-- A spelled character is read, and reading goes on behind it. It costs one of the bound, however
many characters spell it. -/
theorem readChars_step {c : Char} {piece : List Char} (spelled : SpellsChar c piece) {bound : Nat}
    {others rest tail : List Char} (later : readChars bound tail = .ok (others, rest)) :
    readChars (bound + 1) (piece ++ tail) = .ok (c :: others, rest) := by
  have escaped : ∀ {text : List Char}, piece = '\\' :: text →
      readChars (bound + 1) (piece ++ tail) = .ok (c :: others, rest) := by
    rintro text rfl
    simp [readChars, readEscape_append spelled, later]
  cases spelled with
  | raw plain =>
    have printable : ¬ c.toNat < 32 := Nat.not_lt.mpr plain.2.2
    simp [readChars, plain.1, plain.2.1, printable, later]
  | short => exact escaped rfl
  | unit => exact escaped rfl
  | pair => exact escaped rfl

/-- A spelled character takes up room, so there are at most as many characters in a string as the
text has. -/
theorem SpellsChar.length_pos {c : Char} {piece : List Char} (spelled : SpellsChar c piece) :
    0 < piece.length := by
  cases spelled <;> simp

/-- Spelled characters are read up to the closing quote. By induction over the characters; the
length of the text is bound enough. -/
theorem readChars_append {chars text : List Char} (spelled : SpellsChars chars text) {bound : Nat}
    (enough : text.length < bound) (rest : List Char) :
    readChars bound (text ++ '"' :: rest) = .ok (chars, rest) := by
  induction spelled generalizing bound with
  | nil =>
    obtain ⟨bound, rfl⟩ := Nat.exists_eq_succ_of_ne_zero (Nat.ne_of_gt enough)
    simp [readChars]
  | @cons c chars piece text head _ inductionHypothesis =>
    have room := head.length_pos
    rw [List.length_append] at enough
    obtain ⟨bound, rfl⟩ : ∃ left, bound = left + 1 := ⟨bound - 1, by omega⟩
    rw [List.append_assoc]
    exact readChars_step head (inductionHypothesis (by omega))

/-- A spelled string is read after its opening quote. -/
theorem readString_append {value : String} {text : List Char}
    (spelled : SpellsString value ('"' :: text)) {bound : Nat} (enough : text.length ≤ bound)
    (rest : List Char) : readString bound (text ++ rest) = .ok (value, rest) := by
  cases spelled with
  | quoted inside =>
    simp only [List.length_append, List.length_singleton] at enough
    rw [List.append_assoc]
    simp [readString, readChars_append inside enough]

/-! ## Writing -/

/-- Every digit of the writer is the digit of its value, as it writes small letters. -/
theorem hexDigit_digitChar {value : Nat} (small : value < 16) :
    HexDigit (Nat.digitChar value) value := by
  left
  interval_cases value <;> rfl

/-- A character is written as one of its spellings: itself if that is allowed, else a short escape
or a code unit. -/
theorem spellsChar_writeChar (c : Char) : SpellsChar c (writeChar c) := by
  unfold writeChar
  split
  · exact .short .quote
  · exact .short .backslash
  · exact .short .backspace
  · exact .short .formFeed
  · exact .short .lineFeed
  · exact .short .carriageReturn
  · exact .short .tab
  · split
    · rename_i control
      have number : c.toNat = 16 * (16 * (16 * 0 + 0) + c.toNat / 16) + c.toNat % 16 := by
        omega
      have zero : HexDigit '0' 0 := Or.inl rfl
      have high : c.toNat / 16 < 16 := by omega
      have low : c.toNat % 16 < 16 := by omega
      have spelled := SpellsUnit.digits zero zero (hexDigit_digitChar high) (hexDigit_digitChar low)
      rw [← number] at spelled
      exact .unit spelled
    · rename_i notQuote notBackslash _ _ _ _ _ printable
      exact .raw ⟨notQuote, notBackslash, Nat.not_lt.mp printable⟩

/-- A string is written as one of its spellings. -/
theorem spellsString_writeString (value : String) : SpellsString value (writeString value) := by
  have spelled : ∀ chars : List Char, SpellsChars chars (chars.flatMap writeChar) := by
    intro chars
    induction chars with
    | nil => exact .nil
    | cons c chars inductionHypothesis =>
      rw [List.flatMap_cons]
      exact .cons (spellsChar_writeChar c) inductionHypothesis
  exact .quoted (spelled value.toList)

end SlotLang.Json
