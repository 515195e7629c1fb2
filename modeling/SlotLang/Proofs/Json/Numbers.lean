import Mathlib.Data.List.Basic
import SlotLang.Json.Reader
import SlotLang.Proofs.Json.Strings

/-!
# How numbers may be spelled

A number is a sign, digits without a leading zero, a fraction and an exponent, of which only the
digits must be there. Every number can be passed over. An integer of 64 bits has one spelling, its
decimal digits; the reader adds them up without loss, and hands back the integer.

Where a number ends only shows by what follows it: neither a digit nor a mark of a fraction or of an
exponent may.
-/

namespace SlotLang.Json

open Text

/-! ## Spellings -/

/-- A number ends before this text: its first character, if it has one, could not be more of a
number. The reader would take it otherwise. -/
def Stops (rest : List Char) : Prop :=
  ∀ c ∈ rest.head?, isDigit c = false ∧ c ≠ '.' ∧ c ≠ 'e' ∧ c ≠ 'E'

/-- A text of digits only. -/
def Digits (text : List Char) : Prop :=
  ∀ c ∈ text, isDigit c = true

/-- Digits without a leading zero. Zero itself is the one number that starts with it. -/
inductive WholeText : List Char → Prop where
  /-- Zero alone. -/
  | zero : WholeText ['0']
  /-- Any other digits, of which the first is not zero. -/
  | digits {c : Char} {others : List Char} (notZero : c ≠ '0') (all : Digits (c :: others)) :
      WholeText (c :: others)

/-- A fraction, or nothing. A point alone is no fraction. -/
inductive FractionText : List Char → Prop where
  /-- No fraction. -/
  | absent : FractionText []
  /-- A point and digits. -/
  | digits {c : Char} {others : List Char} (all : Digits (c :: others)) :
      FractionText ('.' :: c :: others)

/-- An exponent, or nothing. The mark may be of either case, and the sign may be absent. -/
inductive ExponentText : List Char → Prop where
  /-- No exponent. -/
  | absent : ExponentText []
  /-- A mark, perhaps a sign, and digits. -/
  | digits {mark c : Char} {sign others : List Char} (marked : mark = 'e' ∨ mark = 'E')
      (signed : sign = [] ∨ sign = ['+'] ∨ sign = ['-']) (all : Digits (c :: others)) :
      ExponentText (mark :: (sign ++ c :: others))

/-- Any number. No value is said to belong to it, since this is for numbers that are passed over. -/
inductive NumberText : List Char → Prop where
  /-- A minus sign or none, and the three parts in order. -/
  | parts {sign whole fraction exponent : List Char} (signed : sign = [] ∨ sign = ['-'])
      (first : WholeText whole) (second : FractionText fraction) (third : ExponentText exponent) :
      NumberText (sign ++ (whole ++ (fraction ++ exponent)))

/-! ## Parts -/

/-- A number may be the last thing in a text. -/
theorem Stops.nil : Stops [] := by
  intro c first
  cases first

/-- Where a number ends no digit follows. -/
theorem Stops.startsWithDigit {rest : List Char} (stops : Stops rest) :
    startsWithDigit rest = false := by
  cases rest with
  | nil => rfl
  | cons c rest => exact (stops c rfl).1

/-- Digits are taken as far as they go, and what follows is left as it is. -/
theorem takeWhile_digits {digits rest : List Char} (all : Digits digits)
    (ends : startsWithDigit rest = false) :
    (digits ++ rest).takeWhile isDigit = digits ∧ (digits ++ rest).dropWhile isDigit = rest := by
  rw [List.takeWhile_append_of_pos all, List.dropWhile_append_of_pos all]
  cases rest with
  | nil => simp
  | cons c rest =>
    have other : isDigit c = false := ends
    simp [other]

/-- The digits before the point are read, up to the first character that is no digit. -/
theorem readWhole_append {whole rest : List Char} (spelled : WholeText whole)
    (ends : startsWithDigit rest = false) : readWhole (whole ++ rest) = .ok (whole, rest) := by
  cases spelled with
  | zero => simp [readWhole, ends, show isDigit '0' = true by decide]
  | @digits c others notZero all =>
    have digit : isDigit c = true := all c (List.mem_cons_self ..)
    have taken := takeWhile_digits all ends
    simp only [List.cons_append] at taken ⊢
    simp [readWhole, digit, notZero, taken]

/-- Digits have no sign. -/
theorem readMinus_whole {whole : List Char} (spelled : WholeText whole) (rest : List Char) :
    readMinus (whole ++ rest) = (false, whole ++ rest) := by
  cases spelled with
  | zero => rfl
  | @digits c _ _ all =>
    have notMinus : c ≠ '-' := by
      rintro rfl
      exact absurd (all '-' (List.mem_cons_self ..)) (by decide)
    simp [readMinus, notMinus]

/-- No fraction is read where a number ends, as what follows begins with no point. -/
theorem readFraction_of_stops {rest : List Char} (stops : Stops rest) :
    readFraction rest = .ok (none, rest) := by
  unfold readFraction
  split
  · exact absurd rfl (stops '.' rfl).2.1
  · rfl

/-- No exponent is read where a number ends, as what follows begins with no mark of one. -/
theorem readExponent_of_stops {rest : List Char} (stops : Stops rest) :
    readExponent rest = .ok (.absent, rest) := by
  unfold readExponent
  split
  · exact absurd rfl (stops 'e' rfl).2.2.1
  · exact absurd rfl (stops 'E' rfl).2.2.2
  · rfl

/-! ## Passing over -/

/-- The digits before the point are passed over as they are read. -/
theorem skipWhole_append {whole rest : List Char} (spelled : WholeText whole)
    (ends : startsWithDigit rest = false) : skipWhole (whole ++ rest) = .ok rest := by
  cases spelled with
  | zero => simp [skipWhole, ends, show isDigit '0' = true by decide]
  | @digits c others notZero all =>
    have digit : isDigit c = true := all c (List.mem_cons_self ..)
    have taken := takeWhile_digits (List.forall_mem_of_forall_mem_cons all) ends
    simp [skipWhole, digit, notZero, taken]

/-- A fraction is passed over. Where there is none, no point may follow, or it would be taken for
the start of one. -/
theorem skipFraction_append {fraction rest : List Char} (spelled : FractionText fraction)
    (ends : startsWithDigit rest = false) (noPoint : rest.head? ≠ some '.') :
    skipFraction (fraction ++ rest) = .ok rest := by
  cases spelled with
  | absent =>
    rw [List.nil_append]
    unfold skipFraction
    split
    · exact absurd rfl noPoint
    · rfl
  | @digits c others all =>
    have digit : startsWithDigit (c :: (others ++ rest)) = true :=
      all c (List.mem_cons_self ..)
    have taken := takeWhile_digits all ends
    simp only [List.cons_append] at taken ⊢
    simp [skipFraction, digit, taken]

/-- An exponent is passed over, with its sign if it has one. -/
theorem skipExponent_append {exponent rest : List Char} (spelled : ExponentText exponent)
    (stops : Stops rest) : skipExponent (exponent ++ rest) = .ok rest := by
  cases spelled with
  | absent =>
    rw [List.nil_append]
    cases rest with
    | nil => rfl
    | cons c rest =>
      have other := stops c rfl
      simp [skipExponent, other.2.2]
  | @digits mark c sign others marked signed all =>
    have digit : isDigit c = true := all c (List.mem_cons_self ..)
    have noSign : c ≠ '-' ∧ c ≠ '+' := by
      constructor <;> rintro rfl <;> exact absurd digit (by decide)
    have taken := takeWhile_digits (List.forall_mem_of_forall_mem_cons all) stops.startsWithDigit
    have after : (readSign (sign ++ c :: (others ++ rest))).2 = c :: (others ++ rest) := by
      rcases signed with rfl | rfl | rfl
      · simp [readSign, noSign]
      · rfl
      · rfl
    simp [skipExponent, marked, after, digit, taken]

/-- What begins with an exponent, or with what ends a number, begins with no digit and no point. -/
theorem head_exponent {exponent rest : List Char} (spelled : ExponentText exponent)
    (stops : Stops rest) :
    startsWithDigit (exponent ++ rest) = false ∧ (exponent ++ rest).head? ≠ some '.' := by
  cases spelled with
  | absent => exact ⟨stops.startsWithDigit, fun point => (stops '.' point).2.1 rfl⟩
  | digits marked => rcases marked with rfl | rfl <;> exact ⟨rfl, by simp⟩

/-- Any number is passed over, if what follows it could not be more of it. So the reader stops at
the end of the number and not earlier. -/
theorem skipNumber_append {number rest : List Char} (spelled : NumberText number)
    (stops : Stops rest) : skipNumber (number ++ rest) = .ok rest := by
  obtain ⟨signed, first, second, third⟩ := spelled
  rename_i sign whole fraction exponent
  obtain ⟨noDigit, noPoint⟩ := head_exponent third stops
  have ends : startsWithDigit (fraction ++ (exponent ++ rest)) = false := by
    cases second with
    | absent => exact noDigit
    | digits => rfl
  have unsigned : (readMinus (sign ++ (whole ++ (fraction ++ (exponent ++ rest))))).2 =
      whole ++ (fraction ++ (exponent ++ rest)) := by
    rcases signed with rfl | rfl
    · rw [List.nil_append, readMinus_whole first]
    · rfl
  simp only [skipNumber, List.append_assoc]
  rw [unsigned, skipWhole_append first ends]
  simp [skipFraction_append second noDigit noPoint, skipExponent_append third stops]

/-! ## Integers -/

/-- The digits of a reader are those of the library. -/
theorem isDigit_eq (c : Char) : isDigit c = c.isDigit := by
  simp [isDigit, Char.isDigit, Char.le_def]

/-- The decimal digits of a number are digits. -/
theorem digits_toDigits (n : Nat) : Digits (Nat.toDigits 10 n) := by
  intro c inside
  rw [isDigit_eq]
  exact Nat.isDigit_of_mem_toDigits (by decide) (by decide) inside

/-- The decimal digits of a number have no leading zero, so they can stand in front of the point. -/
theorem wholeText_toDigits (n : Nat) : WholeText (Nat.toDigits 10 n) := by
  have leading : ∀ n, 0 < n → (Nat.toDigits 10 n).head? ≠ some '0' := by
    intro n
    induction n using Nat.strongRecOn with
    | ind n inductionHypothesis =>
      intro positive
      rw [Nat.toDigits_eq_if (by decide)]
      split
      · simp
        omega
      · rw [List.head?_append_of_ne_nil _ Nat.toDigits_ne_nil]
        exact inductionHypothesis (n / 10) (by omega) (by omega)
  cases n with
  | zero =>
    rw [Nat.toDigits_zero]
    exact .zero
  | succ n =>
    have notZero := leading (n + 1) (Nat.succ_pos n)
    have all := digits_toDigits (n + 1)
    cases spelled : Nat.toDigits 10 (n + 1) with
    | nil => exact absurd spelled Nat.toDigits_ne_nil
    | cons c others =>
      rw [spelled] at notZero all
      exact .digits (fun zero => notZero (zero ▸ rfl)) all

/-- Adding digits up never makes a number smaller. -/
theorem le_ofDigitChars (digits : List Char) (value : Nat) :
    value ≤ Nat.ofDigitChars 10 digits value := by
  rw [Nat.ofDigitChars_eq_ofDigitChars_zero]
  have scaled : value ≤ 10 ^ digits.length * value :=
    Nat.le_mul_of_pos_left value (Nat.pow_pos (by decide))
  omega

/-- Digits whose number fits in 64 bits are added up without loss. No prefix of them makes a greater
number, so no digit is refused on the way. -/
theorem gather_of_fits {digits : List Char} {value : Nat}
    (fits : Nat.ofDigitChars 10 digits value < Nat.pow 2 64) :
    Significand.gather value digits = (Nat.ofDigitChars 10 digits value, []) := by
  induction digits generalizing value with
  | nil => simp [Significand.gather]
  | cons c digits inductionHypothesis =>
    rw [Nat.ofDigitChars_cons] at fits ⊢
    have small := Nat.lt_of_le_of_lt (le_ofDigitChars digits _) fits
    rw [Significand.gather]
    simp only [small, if_true]
    exact inductionHypothesis fits

/-- The significand of a number's decimal digits is the number, with no power of ten to it. -/
theorem significand_toDigits {n : Nat} (fits : n < Nat.pow 2 64) :
    Significand.ofDigits (Nat.toDigits 10 n) [] = ⟨n, 0⟩ := by
  have value : Nat.ofDigitChars 10 (Nat.toDigits 10 n) 0 = n :=
    Nat.ofDigitChars_toDigits (by decide) (by decide)
  have gathered : Significand.gather 0 (Nat.toDigits 10 n) = (n, []) := by
    rw [gather_of_fits (value.symm ▸ fits), value]
  simp [Significand.ofDigits, gathered, Significand.gather]

/-- The decimal digits of a number are read as the number, with its sign. -/
theorem readNumber_toDigits {n : Nat} {rest : List Char} (stops : Stops rest)
    (fits : n < Nat.pow 2 64) :
    readNumber (Nat.toDigits 10 n ++ rest) = .ok (.integer n, rest) := by
  have whole := wholeText_toDigits n
  simp [readNumber, readMinus_whole whole, readWhole_append whole stops.startsWithDigit,
    readFraction_of_stops stops, readExponent_of_stops stops, significand_toDigits fits,
    Significand.integer?]

/-- A minus sign and the digits of a positive number are read as the negative number, as long as it
has 64 bits. Zero is left out: with a minus sign it is read as a real number. -/
theorem readNumber_minus_toDigits {n : Nat} {rest : List Char} (stops : Stops rest)
    (fits : n ≤ Nat.pow 2 63) (positive : 0 < n) :
    readNumber ('-' :: (Nat.toDigits 10 n ++ rest)) = .ok (.integer (-n), rest) := by
  have whole := wholeText_toDigits n
  have within : n < Nat.pow 2 64 := Nat.lt_of_le_of_lt fits (by decide)
  have negated : Significand.integer? true ⟨n, 0⟩ = some (-(n : Int)) := by
    simp [Significand.integer?, positive]
    exact fits
  simp [readNumber, readMinus, readWhole_append whole stops.startsWithDigit,
    readFraction_of_stops stops, readExponent_of_stops stops, significand_toDigits within, negated]

/-- What a 64-bit integer is spelled as. -/
def integerText (n : Int64) : List Char :=
  (toString n.toInt).toList

/-- The spelling of an integer is its decimal digits, after a minus sign if it is negative. The two
bounds say which numbers occur. -/
theorem integerText_eq (n : Int64) :
    (∃ magnitude : Nat, n.toInt = magnitude ∧ magnitude < Nat.pow 2 64 ∧
      integerText n = Nat.toDigits 10 magnitude) ∨
    ∃ magnitude : Nat, n.toInt = -magnitude ∧ 0 < magnitude ∧ magnitude ≤ Nat.pow 2 63 ∧
      integerText n = '-' :: Nat.toDigits 10 magnitude := by
  have below := n.toInt_lt
  have above := n.le_toInt
  simp only [integerText, Int.toString_eq_repr, Int.repr_eq_if]
  split
  · have fits : n.toInt.toNat < 18446744073709551616 := by omega
    exact .inl ⟨n.toInt.toNat, by omega, fits, Nat.toList_repr⟩
  · have fits : (-n.toInt).toNat ≤ 9223372036854775808 := by omega
    exact .inr ⟨(-n.toInt).toNat, by omega, by omega, fits, by simp⟩

/-- The spelling of an integer starts with a sign or a digit. -/
theorem integerText_head (n : Int64) :
    ∃ c others, integerText n = c :: others ∧ (c = '-' ∨ isDigit c = true) := by
  obtain ⟨magnitude, _, _, spelled⟩ | ⟨magnitude, _, _, _, spelled⟩ := integerText_eq n
  · have all := digits_toDigits magnitude
    cases digits : Nat.toDigits 10 magnitude with
    | nil => exact absurd digits Nat.toDigits_ne_nil
    | cons c others =>
      rw [digits] at spelled all
      exact ⟨c, others, spelled, .inr (all c (List.mem_cons_self ..))⟩
  · exact ⟨'-', _, spelled, .inl rfl⟩

/-- Neither a sign nor a digit is a blank, so blanks in front of a number end where it begins. -/
theorem not_isBlank_number {c : Char} (numeric : c = '-' ∨ isDigit c = true) :
    isBlank c = false := by
  rcases numeric with rfl | digit
  · decide
  · cases blank : isBlank c with
    | false => rfl
    | true =>
      simp only [isBlank, Bool.or_eq_true, beq_iff_eq, or_assoc] at blank
      rcases blank with rfl | rfl | rfl | rfl <;> exact absurd digit (by decide)

/-- A 64-bit integer is read from its spelling. The reader first gathers a number that may be larger
and then sees that it fits. -/
theorem readInteger_append {blanks rest : List Char} (blank : Blanks blanks) (n : Int64)
    (stops : Stops rest) (bound : Nat) :
    readInteger bound (blanks ++ (integerText n ++ rest)) = .ok (.int n, rest) := by
  have read : readNumber (integerText n ++ rest) = .ok (.integer n.toInt, rest) := by
    obtain ⟨magnitude, value, fits, spelled⟩ | ⟨magnitude, value, positive, fits, spelled⟩ :=
      integerText_eq n
    · rw [spelled, value]
      exact readNumber_toDigits stops fits
    · rw [spelled, value]
      exact readNumber_minus_toDigits stops fits positive
  obtain ⟨c, others, spelled, numeric⟩ := integerText_head n
  rw [spelled] at read ⊢
  rw [List.cons_append] at read ⊢
  have within := n.toInt_le
  simp only [readInteger, skipBlanks_append_cons blank (not_isBlank_number numeric), numeric,
    if_true, read, ok_bind, toInteger, within, Int64.ofInt_toInt]

end SlotLang.Json
