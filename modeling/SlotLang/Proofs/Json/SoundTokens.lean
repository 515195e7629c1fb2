import SlotLang.Proofs.Json.Passing

/-!
# What the readers of tokens take

A reader that succeeds has taken something off the front of its text, and what it has taken is a
spelling of what it hands back. This is shown here for the smallest parts of a text, for numbers and
strings, and for values that are passed over. It is the other half of what is shown of their
spellings: that each of them is read.
-/

namespace SlotLang.Json

open Text

/-! ## Success -/

/-- Two readers succeed in sequence if the first does and then the second. This takes the success of
a reader apart into those of its parts. -/
theorem bind_eq_ok {α β : Type} {first : Except Failure α} {next : α → Except Failure β}
    {result : β} :
    (first >>= next) = .ok result ↔ ∃ value, first = .ok value ∧ next value = .ok result := by
  cases first with
  | ok value => simp
  | error failure => simp [bind, Except.bind]

/-- A refusal is no success. The simplifier uses this and the two facts below to drop each branch in
which a reader refuses. -/
@[simp] theorem refuse_ne_ok {α : Type} {cause : Cause} {rest : List Char} {result : α} :
    refuse cause rest ≠ .ok result := by
  simp [refuse]

/-- Nor is a refusal one character further on. It only names another place. -/
@[simp] theorem refuseNext_ne_ok {α : Type} {cause : Cause} {rest : List Char} {result : α} :
    refuseNext cause rest ≠ .ok result := by
  simp [refuseNext]

/-- Nor is a refusal of a value that has another type than the one expected, although the value
itself is passed over to see what it is. -/
@[simp] theorem refuseType_ne_ok {α : Type} {bound : Nat} {expected : String} {text : List Char}
    {result : α} : refuseType bound expected text ≠ .ok result := by
  unfold refuseType
  split <;> simp

/-! ## Blanks and words -/

/-- Blanks that stand one after the other are blanks. So it does not matter in how many steps they
were passed over. -/
theorem Blanks.append {blanks more : List Char} (blank : Blanks blanks) (moreBlank : Blanks more) :
    Blanks (blanks ++ more) := by
  intro c inside
  rcases List.mem_append.mp inside with inside | inside
  · exact blank c inside
  · exact moreBlank c inside

/-- What is passed over in front of a token is blank, and what stands before the token is nothing
else. -/
theorem exists_blanks {text rest : List Char} (skipped : skipBlanks text = rest) :
    ∃ blanks, Blanks blanks ∧ text = blanks ++ rest := by
  refine ⟨text.takeWhile isBlank, List.all_eq_true.mp List.all_takeWhile, ?_⟩
  rw [← skipped, skipBlanks, List.takeWhile_append_dropWhile]

/-- A fixed word is taken off the front of a text character by character, so the text begins with
it. By induction over the word. -/
theorem eq_of_readWord {word text rest : List Char} (read : readWord word text = .ok rest) :
    text = word ++ rest := by
  induction word generalizing text with
  | nil =>
    cases read
    rfl
  | cons want word inductionHypothesis =>
    cases text with
    | nil => simp [readWord] at read
    | cons c text =>
      simp only [readWord] at read
      split at read
      · next same => rw [same, inductionHypothesis read, List.cons_append]
      · simp at read

/-- What is taken with a colon is the blanks before it; the blanks after it are left to what comes
next. -/
theorem of_readColon {text rest : List Char} (read : readColon text = .ok rest) :
    ∃ blanks, Blanks blanks ∧ text = blanks ++ ':' :: rest := by
  unfold readColon at read
  split at read
  · next found =>
    cases read
    exact exists_blanks found
  · simp at read
  · simp at read

/-! ## Strings -/

/-- What holds of each code in a range holds of the characters in the range. For a short range this
leaves finitely many cases that can be computed. -/
@[elab_as_elim]
theorem forall_in_range {P : Char → Prop} {least most c : Char} (range : least ≤ c ∧ c ≤ most)
    (each : ∀ n ≤ most.toNat, least.toNat ≤ n → P (Char.ofNat n)) : P c := by
  have holds := each c.toNat range.2 range.1
  rwa [Char.ofNat_toNat] at holds

/-- A hexadecimal digit is read as its value only, and as such it is a character of one byte, large
letter or small. -/
theorem hexDigit_of_hexValue? {c : Char} {value : Nat} (read : hexValue? c = some value) :
    HexDigit c value ∧ c.utf8Size = 1 := by
  unfold hexValue? at read
  split at read
  · next range =>
    cases read
    exact forall_in_range range (by decide)
  · split at read
    · next range =>
      cases read
      exact forall_in_range range (by decide)
    · split at read
      · next range =>
        cases read
        exact forall_in_range range (by decide)
      · cases read

/-- Only digits are read as a number. By induction over the digits, from the first on, as they are
read. -/
theorem hexValue?_of_hexNumber? {digits : List Char} {n : Nat} (read : hexNumber? digits = some n) :
    ∀ c ∈ digits, ∃ value, hexValue? c = some value := by
  have folded {start : Option Nat}
      (read : digits.foldl (fun sum? c => do return 16 * (← sum?) + (← hexValue? c)) start =
        some n) : (∃ sum, start = some sum) ∧ ∀ c ∈ digits, ∃ value, hexValue? c = some value := by
    clear * - read
    induction digits generalizing start with
    | nil => exact ⟨⟨n, read⟩, List.forall_mem_nil _⟩
    | cons c digits inductionHypothesis =>
      obtain ⟨⟨next, added⟩, others⟩ := inductionHypothesis read
      obtain ⟨sum, started, continued⟩ := Option.bind_eq_some_iff.mp added
      obtain ⟨value, digit, _⟩ := Option.bind_eq_some_iff.mp continued
      exact ⟨⟨sum, started⟩, List.forall_mem_cons.mpr ⟨⟨value, digit⟩, others⟩⟩
  exact (folded read).2

/-- Digits have one byte each. The reader counts bytes where the spelling of a code unit counts
digits. -/
theorem byteLength_of_hexNumber? {digits : List Char} {n : Nat}
    (read : hexNumber? digits = some n) : byteLength digits = digits.length := by
  have all := hexValue?_of_hexNumber? read
  clear read
  induction digits with
  | nil => rfl
  | cons c digits inductionHypothesis =>
    obtain ⟨⟨value, digit⟩, others⟩ := List.forall_mem_cons.mp all
    have one := (hexDigit_of_hexValue? digit).2
    have rest := inductionHypothesis others
    simp only [byteLength, List.foldr_cons, List.length_cons] at rest ⊢
    omega

/-- Four hexadecimal digits are taken. The reader counts bytes to find out whether there are four,
and the text has four characters, since each digit is one byte long. -/
theorem of_readHex {text rest : List Char} {n : Nat} (read : readHex text = .ok (n, rest)) :
    ∃ digits, SpellsUnit n digits ∧ text = digits ++ rest := by
  unfold readHex at read
  split at read
  · simp at read
  · next enough =>
    split at read
    · next number =>
      cases read
      have bytes := byteLength_of_hexNumber? number
      have four : (text.take 4).length = 4 := by
        have short := List.length_take_le 4 text
        omega
      refine ⟨text.take 4, ?_, (List.take_append_drop 4 text).symm⟩
      generalize text.take 4 = digits at *
      obtain ⟨a, b, c, d, rfl⟩ := List.length_eq_four.mp four
      obtain ⟨⟨i, first⟩, ⟨j, second⟩, ⟨k, third⟩, ⟨l, fourth⟩, _⟩ := by
        simpa only [List.forall_mem_cons] using hexValue?_of_hexNumber? number
      have sum : 16 * (16 * (16 * i + j) + k) + l = n := by
        simpa [hexNumber?, first, second, third, fourth] using number
      rw [← sum]
      exact .digits (hexDigit_of_hexValue? first).1 (hexDigit_of_hexValue? second).1
        (hexDigit_of_hexValue? third).1 (hexDigit_of_hexValue? fourth).1
    · cases read

/-- A letter that is read as a short escape is one that spells it. There are eight of them. -/
theorem shortEscape_of_shortEscape? {letter c : Char} (read : shortEscape? letter = some c) :
    ShortEscape letter c := by
  unfold shortEscape? at read
  split at read <;> cases read <;> constructor

/-- The value of a hexadecimal digit is one of sixteen, so four bits hold it. -/
theorem HexDigit.lt {c : Char} {value : Nat} (digit : HexDigit c value) : value < 16 := by
  rcases digit with digit | digit <;> exact (List.getElem?_eq_some_iff.mp digit).1

/-- So four of them spell a number of sixteen bits, which is a code unit. -/
theorem SpellsUnit.lt {n : Nat} {digits : List Char} (spelled : SpellsUnit n digits) :
    n < 0x10000 := by
  obtain ⟨first, second, third, fourth⟩ := spelled
  have sizes := And.intro first.lt (And.intro second.lt (And.intro third.lt fourth.lt))
  omega

/-- A code point that is no half of a pair is that of its character. For half a pair there is no
character, and this would fail. -/
theorem toNat_ofNat {n : Nat} (small : n < 0x110000) (apart : n < 0xd800 ∨ 0xe000 ≤ n) :
    (Char.ofNat n).toNat = n := by
  have valid : n.isValidChar := by
    unfold Nat.isValidChar
    omega
  rw [Char.ofNat, dif_pos valid]
  rfl

/-- The second half of a pair is a second escape, and its number lies where second halves lie. The
character that both halves mean is put together from the two numbers. -/
theorem of_readLowSurrogate {high : Nat} {text rest : List Char} {c : Char}
    (read : readLowSurrogate high text = .ok (c, rest)) :
    ∃ low digits, SpellsUnit low digits ∧ (0xdc00 ≤ low ∧ low < 0xe000) ∧
      c = Char.ofNat (0x10000 + (high - 0xd800) * 0x400 + (low - 0xdc00)) ∧
      text = '\\' :: 'u' :: (digits ++ rest) := by
  unfold readLowSurrogate at read
  split at read
  · simp at read
  · split at read
    · simp at read
    · next backslash =>
      split at read
      · simp at read
      · split at read
        · simp at read
        · next letter =>
          obtain ⟨⟨low, after⟩, hex, checked⟩ := bind_eq_ok.mp read
          dsimp only at checked
          split at checked
          · next isLow =>
            obtain ⟨rfl, rfl⟩ := Prod.mk.inj (Except.ok.inj checked)
            obtain ⟨digits, spelled, rfl⟩ := of_readHex hex
            simp only [isLowSurrogate, Bool.and_eq_true, decide_eq_true_eq] at isLow
            refine ⟨low, digits, spelled, by omega, rfl, ?_⟩
            rw [not_not.mp backslash, not_not.mp letter]
          · simp at checked

/-- An escape with a number means a character by itself, or together with a second escape. A second
half that comes first is refused, so the number of an escape that stands alone is that of its
character. -/
theorem of_readUnicode {text rest : List Char} {c : Char}
    (read : readUnicode text = .ok (c, rest)) :
    ∃ body, SpellsChar c ('\\' :: 'u' :: body) ∧ text = body ++ rest := by
  unfold readUnicode at read
  obtain ⟨⟨n, after⟩, hex, checked⟩ := bind_eq_ok.mp read
  obtain ⟨digits, spelled, rfl⟩ := of_readHex hex
  have small := spelled.lt
  dsimp only at checked
  split at checked
  · simp at checked
  · next notLow =>
    simp only [isLowSurrogate, Bool.and_eq_true, decide_eq_true_eq] at notLow
    split at checked
    · next isHigh =>
      simp only [isHighSurrogate, Bool.and_eq_true, decide_eq_true_eq] at isHigh
      obtain ⟨low, others, otherSpelled, isLow, meant, rfl⟩ := of_readLowSurrogate checked
      have joined : c.toNat = 0x10000 + (n - 0xd800) * 0x400 + (low - 0xdc00) := by
        rw [meant]
        apply toNat_ofNat <;> omega
      refine ⟨digits ++ '\\' :: 'u' :: others, ?_, by simp⟩
      exact .pair spelled otherSpelled (by omega) isLow joined
    · next notHigh =>
      simp only [isHighSurrogate, Bool.and_eq_true, decide_eq_true_eq] at notHigh
      cases checked
      have same : (Char.ofNat n).toNat = n := toNat_ofNat (by omega) (by omega)
      rw [← same] at spelled
      exact ⟨digits, .unit spelled, rfl⟩

/-- What is taken behind a backslash spells the character that is handed back, by a letter or by a
number. -/
theorem of_readEscape {text rest : List Char} {c : Char} (read : readEscape text = .ok (c, rest)) :
    ∃ body, SpellsChar c ('\\' :: body) ∧ text = body ++ rest := by
  unfold readEscape at read
  split at read
  · simp at read
  · split at read
    · next isUnit =>
      obtain ⟨body, spelled, rfl⟩ := of_readUnicode read
      exact ⟨'u' :: body, spelled, by rw [isUnit, List.cons_append]⟩
    · split at read
      · next escape =>
        cases read
        exact ⟨[_], .short (shortEscape_of_shortEscape? escape), rfl⟩
      · simp at read

/-- What is read up to a closing quote spells the characters that are handed back. The induction is
on the bound, one character of the string at a time. -/
theorem of_readChars {bound : Nat} {text chars rest : List Char}
    (read : readChars bound text = .ok (chars, rest)) :
    ∃ body, SpellsChars chars body ∧ text = body ++ '"' :: rest := by
  induction bound generalizing text chars with
  | zero => simp [readChars] at read
  | succ bound inductionHypothesis =>
    cases text with
    | nil => simp [readChars] at read
    | cons c text =>
      simp only [readChars] at read
      split at read
      · next quote =>
        cases read
        exact ⟨[], .nil, by rw [quote, List.nil_append]⟩
      · next notQuote =>
        split at read
        · simp at read
        · next printable =>
          split at read
          · next backslash =>
            obtain ⟨⟨meant, after⟩, escape, later⟩ := bind_eq_ok.mp read
            obtain ⟨⟨others, final⟩, readOthers, same⟩ := bind_eq_ok.mp later
            cases same
            obtain ⟨piece, spelled, rfl⟩ := of_readEscape escape
            obtain ⟨body, spelledOthers, rfl⟩ := inductionHypothesis readOthers
            exact ⟨_, .cons spelled spelledOthers, by simp [backslash]⟩
          · next notBackslash =>
            obtain ⟨⟨others, final⟩, readOthers, same⟩ := bind_eq_ok.mp read
            cases same
            obtain ⟨body, spelledOthers, rfl⟩ := inductionHypothesis readOthers
            exact ⟨_, .cons (.raw ⟨notQuote, notBackslash, Nat.not_lt.mp printable⟩) spelledOthers,
              rfl⟩

/-- A string is taken with both of its quotes. The one in front has been seen before, and the one at
the end is taken by the reader of the characters. -/
theorem of_readString {bound : Nat} {text rest : List Char} {value : String}
    (read : readString bound text = .ok (value, rest)) :
    ∃ body, SpellsString value ('"' :: body) ∧ text = body ++ rest := by
  obtain ⟨⟨chars, after⟩, readInside, same⟩ := bind_eq_ok.mp read
  cases same
  obtain ⟨body, spelled, rfl⟩ := of_readChars readInside
  refine ⟨body ++ ['"'], .quoted ?_, by simp⟩
  rwa [String.toList_ofList]

/-! ## Numbers -/

/-- Characters that are taken while they are digits are digits. -/
theorem digits_takeWhile (text : List Char) : Digits (text.takeWhile isDigit) :=
  List.all_eq_true.mp List.all_takeWhile

/-- A minus sign is taken if there is one, and nothing else is. -/
theorem of_readMinus {text rest : List Char} {negative : Bool}
    (read : readMinus text = (negative, rest)) :
    text = (if negative then ['-'] else []) ++ rest := by
  unfold readMinus at read
  split at read
  · cases read
    rfl
  · cases read
    rfl

/-- The digits before the point are a zero that stands alone, or begin with another digit; those
that begin with a zero and go on are refused. -/
theorem of_readWhole {text whole rest : List Char} (read : readWhole text = .ok (whole, rest)) :
    WholeText whole ∧ text = whole ++ rest := by
  unfold readWhole at read
  split at read
  · simp at read
  · next c text =>
    split at read
    · simp at read
    · next digit =>
      split at read
      · next zero =>
        split at read
        · simp at read
        · cases read
          rw [zero]
          exact ⟨.zero, rfl⟩
      · next notZero =>
        cases read
        have all := digits_takeWhile (c :: text)
        have first : isDigit c = true := by simpa using digit
        rw [List.takeWhile_cons_of_pos first] at all ⊢
        refine ⟨.digits notZero all, ?_⟩
        rw [List.dropWhile_cons_of_pos first, List.cons_append, List.takeWhile_append_dropWhile]

/-- Digits that are passed over could be read: the two differ only in what they hand back. -/
theorem readWhole_of_skipWhole {text rest : List Char} (read : skipWhole text = .ok rest) :
    ∃ whole, readWhole text = .ok (whole, rest) := by
  cases text with
  | nil => simp [skipWhole] at read
  | cons c text =>
    simp only [skipWhole, readWhole] at read ⊢
    split at read
    · simp at read
    · next digit =>
      rw [if_neg digit]
      split at read
      · next zero =>
        rw [if_pos zero]
        split at read
        · simp at read
        · next alone =>
          cases read
          exact ⟨[c], if_neg alone⟩
      · next notZero =>
        have first : isDigit c = true := by simpa using digit
        cases read
        rw [if_neg notZero, List.dropWhile_cons_of_pos first]
        exact ⟨_, rfl⟩

/-- The same is taken where digits are passed over, which does not keep them. -/
theorem of_skipWhole {text rest : List Char} (read : skipWhole text = .ok rest) :
    ∃ whole, WholeText whole ∧ text = whole ++ rest := by
  obtain ⟨whole, read⟩ := readWhole_of_skipWhole read
  exact ⟨whole, of_readWhole read⟩

/-- Digits that start a text are taken with the one that stands first, and none is left behind
them. -/
theorem exists_digits {text : List Char} (starts : startsWithDigit text = true) :
    ∃ c others, Digits (c :: others) ∧ text = c :: others ++ text.dropWhile isDigit := by
  cases text with
  | nil => cases starts
  | cons c text =>
    have digit : isDigit c = true := starts
    refine ⟨c, text.takeWhile isDigit, ?_, ?_⟩
    · exact List.forall_mem_cons.mpr ⟨digit, digits_takeWhile text⟩
    · rw [List.dropWhile_cons_of_pos digit, List.cons_append, List.takeWhile_append_dropWhile]

/-- A fraction is a point and at least one digit, and may be absent. It is absent if there is no
point. -/
theorem of_skipFraction {text rest : List Char} (read : skipFraction text = .ok rest) :
    ∃ fraction, FractionText fraction ∧ text = fraction ++ rest := by
  unfold skipFraction at read
  split at read
  · next text =>
    split at read
    · next starts =>
      cases read
      obtain ⟨c, others, all, same⟩ := exists_digits starts
      refine ⟨'.' :: c :: others, .digits all, ?_⟩
      rw [List.cons_append, ← same]
    · simp at read
  · cases read
    exact ⟨[], .absent, rfl⟩

/-- At most one sign is taken. With neither sign there nothing is. -/
theorem readSign_eq (text : List Char) :
    ∃ sign, (sign = [] ∨ sign = ['+'] ∨ sign = ['-']) ∧ text = sign ++ (readSign text).2 := by
  unfold readSign
  split
  · exact ⟨['-'], .inr (.inr rfl), rfl⟩
  · exact ⟨['+'], .inr (.inl rfl), rfl⟩
  · exact ⟨[], .inl rfl, rfl⟩

/-- An exponent is its mark, a sign or none, and at least one digit; it may be absent. It is absent
if there is no mark. -/
theorem of_skipExponent {text rest : List Char} (read : skipExponent text = .ok rest) :
    ∃ exponent, ExponentText exponent ∧ text = exponent ++ rest := by
  unfold skipExponent at read
  split at read
  · cases read
    exact ⟨[], .absent, rfl⟩
  · next mark after =>
    split at read
    · next marked =>
      obtain ⟨sign, signed, same⟩ := readSign_eq after
      split at read
      · next c others found =>
        rw [found] at same
        split at read
        · next digit =>
          cases read
          have all : Digits (c :: others.takeWhile isDigit) :=
            List.forall_mem_cons.mpr ⟨digit, digits_takeWhile others⟩
          refine ⟨_, .digits marked signed all, ?_⟩
          rw [same]
          simp
        · simp at read
      · simp at read
    · cases read
      exact ⟨[], .absent, rfl⟩

/-- A number that is passed over is put together from the sign, the digits, the fraction and the
exponent, each taken by its own reader. -/
theorem of_skipNumber {text rest : List Char} (read : skipNumber text = .ok rest) :
    ∃ number, NumberText number ∧ text = number ++ rest := by
  obtain ⟨afterWhole, readWhole, later⟩ := bind_eq_ok.mp read
  obtain ⟨afterFraction, readFraction, readExponent⟩ := bind_eq_ok.mp later
  obtain ⟨exponent, third, rfl⟩ := of_skipExponent readExponent
  obtain ⟨fraction, second, rfl⟩ := of_skipFraction readFraction
  obtain ⟨whole, first, same⟩ := of_skipWhole readWhole
  obtain ⟨⟨negative, unsigned⟩, split⟩ : ∃ read, readMinus text = read := ⟨_, rfl⟩
  rw [split] at same
  subst same
  have signed : (if negative then ['-'] else []) = [] ∨
      (if negative then ['-'] else []) = ['-'] := by
    cases negative <;> simp
  refine ⟨_, .parts signed first second third, ?_⟩
  rw [of_readMinus split]
  simp

/-! ## Integers -/

/-- A digit is that of its value, and its value is one of ten. -/
theorem digitChar_of_isDigit {c : Char} (digit : isDigit c = true) :
    c.toNat - '0'.toNat < 10 ∧ Nat.digitChar (c.toNat - '0'.toNat) = c := by
  simp only [isDigit, Bool.and_eq_true, decide_eq_true_eq] at digit
  exact forall_in_range digit (by decide)

/-- Digits after those of a positive number are the digits of the number that they make. The number
has to be positive, because zero would stand as a leading digit. -/
theorem toDigits_append_digits {digits : List Char} (all : Digits digits) {value : Nat}
    (positive : 0 < value) :
    Nat.toDigits 10 value ++ digits = Nat.toDigits 10 (Nat.ofDigitChars 10 digits value) := by
  induction digits generalizing value with
  | nil => simp
  | cons c digits inductionHypothesis =>
    obtain ⟨digit, others⟩ := List.forall_mem_cons.mp all
    obtain ⟨small, same⟩ := digitChar_of_isDigit digit
    have step : Nat.toDigits 10 value ++ [c] =
        Nat.toDigits 10 (10 * value + (c.toNat - '0'.toNat)) := by
      rw [← Nat.toDigits_append_toDigits (by decide) positive small,
        Nat.toDigits_of_lt_base small, same]
    rw [Nat.ofDigitChars_cons, ← inductionHypothesis others (by omega), ← step]
    simp

/-- Digits without a leading zero are the digits of the number that they spell. So the number
determines its digits. -/
theorem toDigits_ofDigitChars {whole : List Char} (spelled : WholeText whole) :
    Nat.toDigits 10 (Nat.ofDigitChars 10 whole 0) = whole := by
  cases spelled with
  | zero => rfl
  | @digits c others notZero all =>
    obtain ⟨digit, others⟩ := List.forall_mem_cons.mp all
    obtain ⟨small, same⟩ := digitChar_of_isDigit digit
    have positive : 0 < c.toNat - '0'.toNat := by
      rw [Nat.pos_iff_ne_zero]
      intro zero
      rw [zero] at same
      exact notZero same.symm
    rw [Nat.ofDigitChars_cons, Nat.mul_zero, Nat.zero_add, ← toDigits_append_digits others positive,
      Nat.toDigits_of_lt_base small, same]
    rfl

/-- Where no digit is lost, gathering digits computes the number that they spell after those before
them. A digit is lost only when the number would not fit, and then it is among what is returned. -/
theorem of_gather {digits : List Char} {value sum : Nat}
    (gathered : Significand.gather value digits = (sum, [])) :
    sum = Nat.ofDigitChars 10 digits value := by
  induction digits generalizing value with
  | nil =>
    cases gathered
    rfl
  | cons c digits inductionHypothesis =>
    simp only [Significand.gather] at gathered
    split at gathered
    · rw [Nat.ofDigitChars_cons]
      exact inductionHypothesis gathered
    · cases gathered

/-- Digits make an integer only if none of them is lost. With a minus sign the integer is not zero
and reaches down to the least of 64 bits. -/
theorem of_integer? {whole : List Char} {negative : Bool} {n : Int}
    (read : (Significand.ofDigits whole []).integer? negative = some n) :
    (negative = false ∧ n = Nat.ofDigitChars 10 whole 0) ∨
    (negative = true ∧ n = -(Nat.ofDigitChars 10 whole 0 : Int) ∧
      0 < Nat.ofDigitChars 10 whole 0 ∧ Nat.ofDigitChars 10 whole 0 ≤ Nat.pow 2 63) := by
  obtain ⟨⟨sum, lost⟩, gathered⟩ : ∃ sum, Significand.gather 0 whole = sum := ⟨_, rfl⟩
  simp only [Significand.ofDigits, gathered, Significand.gather, Significand.integer?] at read
  split at read
  · cases read
  · next nothingLost =>
    obtain rfl : lost = [] := by simpa using nothingLost
    rw [of_gather gathered] at read
    split at read
    · next isNegative =>
      split at read
      · next range =>
        cases read
        exact .inr ⟨isNegative, rfl, range⟩
      · cases read
    · next notNegative =>
      cases read
      exact .inl ⟨by simpa using notNegative, rfl⟩

/-- What is rounded is never handed back as an integer. It is a real number, or it is refused as too
large. -/
theorem rounded_ne_integer {negative : Bool} {significand : Significand} {exponent n : Int}
    {text rest : List Char} :
    rounded negative significand exponent text ≠ .ok (.integer n, rest) := by
  unfold rounded
  split <;> simp

/-- A fraction is absent only where nothing is taken: a point without digits is refused. -/
theorem of_readFraction_none {text rest : List Char} (read : readFraction text = .ok (none, rest)) :
    text = rest := by
  unfold readFraction at read
  split at read
  · split at read
    · cases read
    · split at read <;> simp at read
  · cases read
    rfl

/-- Behind the mark of an exponent there is one, or the text is refused. So an exponent is absent
only if the mark is. -/
theorem readExponentValue_ne_absent {text rest : List Char} :
    readExponentValue text ≠ .ok (.absent, rest) := by
  unfold readExponentValue
  dsimp only
  split
  · simp
  · split
    · simp
    · split <;> simp

/-- An exponent is absent only where nothing is taken. -/
theorem of_readExponent_absent {text rest : List Char}
    (read : readExponent text = .ok (.absent, rest)) : text = rest := by
  unfold readExponent at read
  split at read
  · exact absurd read readExponentValue_ne_absent
  · exact absurd read readExponentValue_ne_absent
  · cases read
    rfl

/-- What is read as an integer is its sign and its digits. With a fraction or an exponent it would
have been rounded, and so there is neither. -/
theorem of_readNumber_integer {text rest : List Char} {n : Int}
    (read : readNumber text = .ok (.integer n, rest)) :
    ∃ negative whole, text = (if negative then ['-'] else []) ++ (whole ++ rest) ∧
      WholeText whole ∧ (Significand.ofDigits whole []).integer? negative = some n := by
  obtain ⟨⟨negative, unsigned⟩, split⟩ : ∃ read, readMinus text = read := ⟨_, rfl⟩
  simp only [readNumber, split] at read
  obtain ⟨⟨whole, afterWhole⟩, readWhole, read⟩ := bind_eq_ok.mp read
  obtain ⟨⟨fraction, afterFraction⟩, readFraction, read⟩ := bind_eq_ok.mp read
  obtain ⟨⟨exponent, afterExponent⟩, readExponent, read⟩ := bind_eq_ok.mp read
  obtain ⟨spelled, rfl⟩ := of_readWhole readWhole
  cases exponent with
  | within e => exact absurd read rounded_ne_integer
  | beyond small =>
    dsimp only at read
    split at read <;> simp at read
  | absent =>
    cases fraction with
    | some digits => exact absurd read rounded_ne_integer
    | none =>
      obtain rfl := of_readExponent_absent readExponent
      obtain rfl := of_readFraction_none readFraction
      simp only [Option.isSome_none, Bool.false_eq_true, if_false, Option.getD_none] at read
      split at read
      · next integer =>
        cases read
        exact ⟨negative, whole, of_readMinus split, spelled, integer⟩
      · exact absurd read rounded_ne_integer

/-- The digits that make a 64-bit integer spell it, as they have no leading zero and a sign only
before a number other than zero. -/
theorem integerText_ofInt {whole : List Char} {negative : Bool} {n : Int}
    (spelled : WholeText whole)
    (read : (Significand.ofDigits whole []).integer? negative = some n)
    (fits : n ≤ Int64.maxValue.toInt) :
    integerText (Int64.ofInt n) = (if negative then ['-'] else []) ++ whole := by
  have most : Int64.maxValue.toInt = 2 ^ 63 - 1 := rfl
  have digits := toDigits_ofDigitChars spelled
  rcases of_integer? read with ⟨rfl, value⟩ | ⟨rfl, value, positive, small⟩
  · have same : (Int64.ofInt n).toInt = n := by
      apply Int64.toInt_ofInt_of_le <;> omega
    obtain ⟨magnitude, isValue, _, text⟩ | ⟨magnitude, isValue, nonzero, _⟩ :=
      integerText_eq (Int64.ofInt n)
    · have sameMagnitude : Nat.ofDigitChars 10 whole 0 = magnitude := by omega
      rw [text, ← sameMagnitude, digits]
      rfl
    · omega
  · have power : Nat.pow 2 63 = 2 ^ 63 := rfl
    have same : (Int64.ofInt n).toInt = n := by
      apply Int64.toInt_ofInt_of_le <;> omega
    obtain ⟨magnitude, isValue, _, _⟩ | ⟨magnitude, isValue, nonzero, _, text⟩ :=
      integerText_eq (Int64.ofInt n)
    · omega
    · have sameMagnitude : Nat.ofDigitChars 10 whole 0 = magnitude := by omega
      rw [text, ← sameMagnitude, digits]
      rfl

/-- What is read as a 64-bit integer is its spelling. No integer has two, so nothing about the text
is left open but its blanks. -/
theorem of_readInteger {bound : Nat} {text rest : List Char} {value : Json}
    (read : readInteger bound text = .ok (value, rest)) :
    ∃ blanks n, Blanks blanks ∧ value = .int n ∧ text = blanks ++ (integerText n ++ rest) := by
  unfold readInteger at read
  split at read
  · simp at read
  · next found =>
    obtain ⟨blanks, blank, rfl⟩ := exists_blanks found
    split at read
    · obtain ⟨⟨number, after⟩, readDigits, integer⟩ := bind_eq_ok.mp read
      cases number with
      | real negative magnitude => simp [toInteger] at integer
      | integer n =>
        simp only [toInteger] at integer
        split at integer
        · next fits =>
          cases integer
          obtain ⟨negative, whole, same, spelled, sum⟩ := of_readNumber_integer readDigits
          refine ⟨blanks, Int64.ofInt n, blank, rfl, ?_⟩
          rw [same, integerText_ofInt spelled sum fits, List.append_assoc]
        · simp at integer
    · simp at read

/-! ## Values that are passed over -/

/-- What is passed over up to a closing quote is the inside of a string. Escapes need not mean a
character here, so half of a pair may stand alone. -/
theorem of_skipString {bound : Nat} {text rest : List Char}
    (read : skipString bound text = .ok rest) :
    ∃ inside, InsideText inside ∧ text = inside ++ '"' :: rest := by
  induction bound generalizing text with
  | zero => simp [skipString] at read
  | succ bound inductionHypothesis =>
    cases text with
    | nil => simp [skipString] at read
    | cons c text =>
      unfold skipString at read
      split at read
      · next quote =>
        cases read
        exact ⟨[], .nil, by rw [quote, List.nil_append]⟩
      · next notQuote =>
        split at read
        · simp at read
        · next printable =>
          split at read
          · next backslash =>
            subst backslash
            split at read
            · simp at read
            · obtain ⟨⟨n, after⟩, hex, later⟩ := bind_eq_ok.mp read
              obtain ⟨digits, spelled, rfl⟩ := of_readHex hex
              obtain ⟨inside, others, rfl⟩ := inductionHypothesis later
              exact ⟨_, .unit spelled others, by simp⟩
            · split at read
              · next escape =>
                obtain ⟨meant, escape⟩ := Option.isSome_iff_exists.mp escape
                obtain ⟨inside, others, rfl⟩ := inductionHypothesis read
                exact ⟨_, .short (shortEscape_of_shortEscape? escape) others, rfl⟩
              · simp at read
          · next notBackslash =>
            obtain ⟨inside, others, rfl⟩ := inductionHypothesis read
            exact ⟨_, .raw ⟨notQuote, notBackslash, Nat.not_lt.mp printable⟩ others, rfl⟩

/-- Pieces, with commas between them, stand at the front of a text, before the rest of it. If other
pieces came before these, there is a comma in front. -/
def LaidOut (first : Bool) (pieces : List (List Char)) (text rest : List Char) : Prop :=
  ∃ body, Separated first pieces body ∧ text = body ++ rest

namespace LaidOut

variable {blanks piece after rest : List Char} {pieces : List (List Char)}

/-- Nothing need be laid out in front of the rest of a text. -/
theorem none (first : Bool) (text : List Char) : LaidOut first [] text text :=
  ⟨[], .none first, rfl⟩

/-- Where the next piece of a text begins: the first one at once, each other one behind a comma.
Blanks may stand in front of either. -/
def Begins : Bool → List Char → List Char → Prop
  | true, text, start => skipBlanks text = start
  | false, text, start => skipBlanks text = ',' :: start

/-- A piece goes before the others where it begins. The pieces behind it are no longer the first
ones. -/
theorem cons {first : Bool} {text start : List Char} (begins : Begins first text start)
    (blank : Blanks blanks) (same : start = blanks ++ (piece ++ after))
    (others : LaidOut false pieces after rest) : LaidOut first (piece :: pieces) text rest := by
  obtain ⟨body, separated, rfl⟩ := others
  cases first with
  | true =>
    obtain ⟨before, blankBefore, rfl⟩ := exists_blanks begins
    exact ⟨_, .first (blankBefore.append blank) separated, by simp [same]⟩
  | false =>
    obtain ⟨before, blankBefore, rfl⟩ := exists_blanks begins
    exact ⟨_, .next blankBefore blank separated, by simp [same]⟩

/-- A reader that goes on at the first piece, and behind a comma at every other, goes on where the
piece begins. -/
theorem exists_begins {α : Type} (goOn : List Char → Except Failure α) {first : Bool} {c : Char}
    {text later : List Char} (found : skipBlanks text = c :: later) {cause : Cause} {result : α}
    (read : (if first = true then goOn (c :: later) else if c = ',' then goOn later
      else refuseNext cause (c :: later)) = .ok result) :
    ∃ start, Begins first text start ∧ goOn start = .ok result := by
  cases first with
  | true => exact ⟨c :: later, found, read⟩
  | false =>
    by_cases comma : c = ','
    · subst comma
      exact ⟨later, found, by simpa using read⟩
    · simp [comma] at read

end LaidOut

/-- Whatever is passed over is blanks and a value. A reader that only passes over a text accepts no
more than the grammar does. -/
def PassesOnlyValues (skip : List Char → Except Failure (List Char)) : Prop :=
  ∀ {text rest}, skip text = .ok rest →
    ∃ blanks value, Blanks blanks ∧ ValueText value ∧ text = blanks ++ (value ++ rest)

section Skip

variable {skip : List Char → Except Failure (List Char)} (passes : PassesOnlyValues skip)

include passes

/-- Items that are passed over have one comma between any two, and none before the bracket that
closes them. The induction is on the bound, since the reader of a list calls that of values with a
smaller one. -/
theorem of_skipItems {bound : Nat} {first : Bool} {text rest : List Char}
    (read : skipItems skip bound first text = .ok rest) :
    ∃ pieces blanks, (∀ piece ∈ pieces, ValueText piece) ∧ Blanks blanks ∧
      LaidOut first pieces text (blanks ++ ']' :: rest) := by
  induction bound generalizing first text with
  | zero => simp [skipItems] at read
  | succ bound inductionHypothesis =>
    unfold skipItems at read
    split at read
    · simp at read
    · next found =>
      cases read
      obtain ⟨blanks, blank, rfl⟩ := exists_blanks found
      exact ⟨[], blanks, List.forall_mem_nil _, blank, .none first _⟩
    · next c later found =>
      obtain ⟨start, begins, skipped⟩ := LaidOut.exists_begins
        (fun start => skip start >>= skipItems skip bound false) found read
      obtain ⟨after, passed, later⟩ := bind_eq_ok.mp skipped
      obtain ⟨blanks, piece, blank, isValue, same⟩ := passes passed
      obtain ⟨pieces, last, values, lastBlank, others⟩ := inductionHypothesis later
      exact ⟨piece :: pieces, last, List.forall_mem_cons.mpr ⟨isValue, values⟩, lastBlank,
        .cons begins blank same others⟩

omit passes in
/-- A member is formed as members are, whatever its key means. Of the value nothing is said. -/
structure MemberText.Formed (member : MemberText) : Prop where
  key : StringText member.key
  before : Blanks member.before
  after : Blanks member.after
  value : ValueText member.value

/-- A member that is passed over is a string, a colon and a value, with blanks where they may be. -/
theorem of_skipMember {bound : Nat} {text rest : List Char}
    (read : skipMember skip bound text = .ok rest) :
    ∃ blanks member, Blanks blanks ∧ MemberText.Formed member ∧
      text = blanks ++ (member.text ++ rest) := by
  unfold skipMember at read
  split at read
  · simp at read
  · next found =>
    obtain ⟨blanks, blank, rfl⟩ := exists_blanks found
    obtain ⟨afterKey, readKey, later⟩ := bind_eq_ok.mp read
    obtain ⟨afterColon, readColon, passed⟩ := bind_eq_ok.mp later
    obtain ⟨inside, key, rfl⟩ := of_skipString readKey
    obtain ⟨before, blankBefore, rfl⟩ := of_readColon readColon
    obtain ⟨after, value, blankAfter, isValue, rfl⟩ := passes passed
    refine ⟨blanks, ⟨'"' :: (inside ++ ['"']), before, after, value⟩, blank,
      ⟨.quoted key, blankBefore, blankAfter, isValue⟩, ?_⟩
    simp [MemberText.text]
  · simp at read

/-- Members that are passed over have one comma between any two, as items have, up to the brace that
closes them. -/
theorem of_skipMembers {bound : Nat} {first : Bool} {text rest : List Char}
    (read : skipMembers skip bound first text = .ok rest) :
    ∃ (members : List MemberText) (blanks : List Char), (∀ member ∈ members, member.Formed) ∧
      Blanks blanks ∧
      LaidOut first (members.map MemberText.text) text (blanks ++ '\x7d' :: rest) := by
  induction bound generalizing first text with
  | zero => simp [skipMembers] at read
  | succ bound inductionHypothesis =>
    unfold skipMembers at read
    split at read
    · simp at read
    · next found =>
      cases read
      obtain ⟨blanks, blank, rfl⟩ := exists_blanks found
      exact ⟨[], blanks, List.forall_mem_nil _, blank, .none first _⟩
    · next c later found =>
      obtain ⟨start, begins, skipped⟩ := LaidOut.exists_begins
        (fun start => skipMember skip bound start >>= skipMembers skip bound false) found read
      obtain ⟨after, passed, later⟩ := bind_eq_ok.mp skipped
      obtain ⟨blanks, member, blank, formed, same⟩ := of_skipMember passes passed
      obtain ⟨members, last, allFormed, lastBlank, others⟩ := inductionHypothesis later
      exact ⟨member :: members, last, List.forall_mem_cons.mpr ⟨formed, allFormed⟩, lastBlank,
        .cons begins blank same others⟩

end Skip

/-- Whatever is passed over is a value. The induction is on the bound, which is spent on the values
inside of arrays and objects. -/
theorem passesOnlyValues_skipValue (bound : Nat) : PassesOnlyValues (skipValue bound) := by
  induction bound with
  | zero =>
    intro text rest read
    simp [skipValue] at read
  | succ bound inductionHypothesis =>
    intro text rest read
    obtain ⟨blanks, blank, same⟩ := exists_blanks (rfl : skipBlanks text = _)
    have taken {value : List Char} (isValue : ValueText value)
        (found : skipBlanks text = value ++ rest) :
        ∃ blanks value, Blanks blanks ∧ ValueText value ∧ text = blanks ++ (value ++ rest) :=
      ⟨blanks, value, blank, isValue, found ▸ same⟩
    unfold skipValue at read
    split at read
    · simp at read
    · next found => exact taken .null (found.trans (congrArg _ (eq_of_readWord read)))
    · next found => exact taken .true (found.trans (congrArg _ (eq_of_readWord read)))
    · next found => exact taken .false (found.trans (congrArg _ (eq_of_readWord read)))
    · next found =>
      obtain ⟨inside, spelled, rfl⟩ := of_skipString read
      exact taken (.string (.quoted spelled)) (by simpa using found)
    · next found =>
      obtain ⟨pieces, last, values, lastBlank, body, separated, rfl⟩ :=
        of_skipItems inductionHypothesis read
      exact taken (.list values separated lastBlank) (by simpa using found)
    · next found =>
      obtain ⟨members, last, formed, lastBlank, body, separated, rfl⟩ :=
        of_skipMembers inductionHypothesis read
      refine taken (.object ?_ ?_ separated lastBlank) (by simpa using found)
      · exact fun member inside =>
          ⟨(formed member inside).key, (formed member inside).before, (formed member inside).after⟩
      · exact fun member inside => (formed member inside).value
    · next found =>
      split at read
      · obtain ⟨number, spelled, same⟩ := of_skipNumber read
        exact taken (.number spelled) (found.trans same)
      · simp at read

end SlotLang.Json
