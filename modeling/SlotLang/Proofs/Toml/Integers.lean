import SlotLang.Proofs.Json.Numbers
import SlotLang.Toml.Value

/-!
# Integers of a TOML text

An integer of 64 bits whose decimal digits end a line is read as itself. The reader first looks for
a date, a time of day, a number with a fraction or an exponent and a number to another base. The
digits could be the start of each of these, and what shows that they are not is that the line ends
after them.
-/

namespace SlotLang.Toml

open Json (Digits WholeText integerText integerText_eq wholeText_toDigits)

/-- A line ends before this text: at the end of all text, or at a line feed. -/
inductive LineEnds : List Char → Prop where
  /-- The text ends with the line. -/
  | text : LineEnds []
  /-- Another line follows. -/
  | line (more : List Char) : LineEnds ('\n' :: more)

variable {digits rest : List Char}

/-! ## Digits -/

/-- A spelling without leading zeros is made of digits. -/
theorem digits_of_wholeText (whole : WholeText digits) : Digits digits := by
  cases whole with
  | zero => exact fun c zero => List.mem_singleton.mp zero ▸ (by decide)
  | digits _ all => exact all

/-- There is a first digit in it. -/
theorem exists_head_of_wholeText (whole : WholeText digits) :
    ∃ c others, digits = c :: others ∧ isDigit c = true := by
  have all := digits_of_wholeText whole
  cases whole with
  | zero => exact ⟨_, _, rfl, all _ List.mem_cons_self⟩
  | digits => exact ⟨_, _, rfl, all _ List.mem_cons_self⟩

/-- A digit is none of the marks that a date, a fraction or a sign would need. -/
theorem ne_of_isDigit {c mark : Char} (digit : isDigit c = true) (other : isDigit mark = false) :
    c ≠ mark := by
  rintro rfl
  rw [digit] at other
  cases other

/-- Digits are read as far as they go, up to the end of the line. -/
theorem readDigits?_append {c : Char} (all : Digits (c :: digits)) (ends : LineEnds rest) :
    readDigits? isDigit (c :: digits ++ rest) = some (c :: digits, rest) := by
  induction digits generalizing c with
  | nil =>
    have digit : isDigit c = true := all c List.mem_cons_self
    cases ends with
    | text => simp [readDigits?, digit]
    | line more => simp [readDigits?, digit, show isDigit '\n' = false by decide]
  | cons d digits inductionHypothesis =>
    have digit : isDigit c = true := all c List.mem_cons_self
    have next : isDigit d = true := all d (by simp)
    have later := inductionHypothesis (List.forall_mem_of_forall_mem_cons all)
    rw [List.cons_append] at later
    simp [readDigits?, digit, next, later]

/-- Digits without leading zeros are taken up to the end of the line. A zero has to stand alone, and
it does, since no digit follows it. -/
theorem readDecimal?_append (whole : WholeText digits) (ends : LineEnds rest) :
    readDecimal? (digits ++ rest) = some (digits, rest) := by
  cases whole with
  | zero =>
    cases ends with
    | text => rfl
    | line more => simp [readDecimal?, show isDigit '\n' = false by decide]
  | @digits c others notZero all =>
    rw [← readDigits?_append all ends]
    simp [readDecimal?, notZero]

/-- Digits spell the number that they are written for. -/
theorem digitsValue_toDigits (n : Nat) : digitsValue 10 (Nat.toDigits 10 n) = n := by
  have place (digits : List Char) (sum : Nat) (all : Digits digits) :
      digits.foldl (fun sum c => 10 * sum + (hexValue? c).getD 0) sum =
        Nat.ofDigitChars 10 digits sum := by
    induction digits generalizing sum with
    | nil => rfl
    | cons c digits inductionHypothesis =>
      have digit : '0' ≤ c ∧ c ≤ '9' := by
        simpa [Json.isDigit] using all c List.mem_cons_self
      rw [List.foldl_cons, inductionHypothesis _ (List.forall_mem_of_forall_mem_cons all),
        Nat.ofDigitChars_cons, hexValue?, if_pos digit, Option.getD_some]
  rw [digitsValue, place _ _ (Json.digits_toDigits n)]
  exact Nat.ofDigitChars_toDigits (by decide) (by decide)

/-! ## Signs -/

/-- A text of digits with or without a minus sign, and whether it has one. No plus sign is ever
written. -/
inductive Signed (digits : List Char) : Bool → List Char → Prop where
  /-- No sign. -/
  | plain : Signed digits false digits
  /-- A minus sign. -/
  | minus : Signed digits true ('-' :: digits)

variable {negative : Bool} {number : List Char}

/-- A minus sign is told from none. A plus sign is never there, because what follows a missing sign
is a digit. -/
theorem Signed.readSign_append (signed : Signed digits negative number) (whole : WholeText digits)
    (rest : List Char) :
    ∃ explicit, readSign (number ++ rest) = ((explicit, negative), digits ++ rest) := by
  cases signed with
  | minus => exact ⟨true, rfl⟩
  | plain =>
    refine ⟨false, ?_⟩
    obtain ⟨c, others, rfl, digit⟩ := exists_head_of_wholeText whole
    have notMinus : c ≠ '-' := ne_of_isDigit digit (by decide)
    have notPlus : c ≠ '+' := ne_of_isDigit digit (by decide)
    simp [readSign, notMinus, notPlus]

/-! ## What an integer is not -/

/-- After digits whose number was fixed comes another digit or the end of the line: the digits that
were counted out cannot reach past the line feed, which is none. -/
theorem head_drop_of_digits {count : Nat} (all : Digits digits) (ends : LineEnds rest)
    (taken : ((digits ++ rest).take count).length = count)
    (onlyDigits : Digits ((digits ++ rest).take count)) :
    ∀ c ∈ ((digits ++ rest).drop count).head?, isDigit c = true ∨ c = '\n' := by
  induction digits generalizing count with
  | nil =>
    cases count with
    | zero =>
      intro c first
      cases ends with
      | text => cases first
      | line more =>
        cases first
        exact .inr rfl
    | succ count =>
      cases ends with
      | text => simp at taken
      | line more => exact absurd (onlyDigits '\n' (by simp)) (by decide)
  | cons d digits inductionHypothesis =>
    cases count with
    | zero =>
      intro c first
      cases first
      exact .inl (all d List.mem_cons_self)
    | succ count =>
      exact inductionHypothesis (List.forall_mem_of_forall_mem_cons all) (by simpa using taken)
        (List.forall_mem_of_forall_mem_cons onlyDigits)

/-- What follows the first digits of an integer is no mark of a date or of a time. -/
theorem readFixed?_integer (signed : Signed digits negative number) (whole : WholeText digits)
    (ends : LineEnds rest) {count value : Nat} {mark : Char} {after : List Char}
    (fixed : readFixed? (count + 1) (number ++ rest) = some (value, mark :: after)) :
    isDigit mark = true ∨ mark = '\n' := by
  unfold readFixed? at fixed
  dsimp only at fixed
  split at fixed
  · next both =>
    cases signed with
    | minus => simp [isDigit] at both
    | plain =>
      have following := head_drop_of_digits (digits_of_wholeText whole) ends both.1
        (fun c member => List.all_eq_true.mp both.2 c member)
      simp only [Option.some.injEq, Prod.mk.injEq] at fixed
      exact following mark (by simp [fixed.2])
  · cases fixed

/-- An integer is not taken for a time of day: behind two digits there is no colon. -/
theorem not_startsLikeTime (signed : Signed digits negative number) (whole : WholeText digits)
    (ends : LineEnds rest) : startsLikeTime (number ++ rest) = false := by
  unfold startsLikeTime
  split
  · next fixed => exact absurd (readFixed?_integer signed whole ends fixed) (by decide)
  · rfl

/-- Nor is it taken for a date, since behind four digits there is no hyphen. A minus sign in front
is no digit, so it does not count among the four. -/
theorem not_startsLikeDate (signed : Signed digits negative number) (whole : WholeText digits)
    (ends : LineEnds rest) : startsLikeDate (number ++ rest) = false := by
  unfold startsLikeDate
  split
  · next fixed => exact absurd (readFixed?_integer signed whole ends fixed) (by decide)
  · rfl

/-- An integer has neither a fraction nor an exponent, so it is not read as a number of another
kind. -/
theorem readReal?_integer (signed : Signed digits negative number) (whole : WholeText digits)
    (ends : LineEnds rest) : readReal? (number ++ rest) = none := by
  obtain ⟨explicit, sign⟩ := signed.readSign_append whole rest
  have noFraction : readFraction? rest = none := by cases ends <;> rfl
  have noExponent : readExponent? rest = none := by cases ends <;> rfl
  have decimal := readDecimal?_append whole ends
  obtain ⟨c, others, rfl, digit⟩ := exists_head_of_wholeText whole
  have notInf : c ≠ 'i' := ne_of_isDigit digit (by decide)
  have notNan : c ≠ 'n' := ne_of_isDigit digit (by decide)
  rw [List.cons_append] at sign decimal
  simp [readReal?, sign, notInf, notNan, decimal, noFraction, noExponent]

/-! ## What an integer is -/

/-- A magnitude with its sign fits if it is that of a 64-bit integer. -/
theorem fitting?_of_signed (signed : Signed digits negative number) {n : Int64}
    {magnitude : Nat} (value : n.toInt = if negative then -(magnitude : Int) else magnitude) :
    fitting? negative magnitude = some n.toInt := by
  have below := n.toInt_lt
  have above := n.le_toInt
  have limit : Nat.pow 2 63 = 9223372036854775808 := rfl
  cases signed with
  | plain =>
    simp only [Bool.false_eq_true, if_false] at value
    simp only [fitting?, Bool.false_eq_true, if_false, limit, value]
    rw [if_pos (by omega)]
  | minus =>
    simp only [if_true] at value
    simp only [fitting?, if_true, limit, value]
    rw [if_pos (by omega)]

/-- After a leading zero there is nothing but the end of the line. -/
theorem eq_of_leading_zero (signed : Signed digits negative number) (whole : WholeText digits)
    (ends : LineEnds rest) {mark : Char} {more : List Char}
    (leading : number ++ rest = '0' :: mark :: more) : mark = '\n' := by
  cases signed with
  | minus => cases leading
  | plain =>
    cases whole with
    | zero =>
      cases ends with
      | text => cases leading
      | line => exact (List.cons.inj (List.cons.inj leading).2).1.symm
    | digits notZero => exact absurd (List.cons.inj leading).1 notZero

/-- Behind the sign the digits are read to their end, and what they are worth is the integer if it
fits. -/
theorem readInteger?_integer (signed : Signed digits negative number) (whole : WholeText digits)
    (ends : LineEnds rest) :
    readInteger? (number ++ rest) =
      (fitting? negative (digitsValue 10 digits)).map fun n => (n, rest) := by
  obtain ⟨explicit, sign⟩ := signed.readSign_append whole rest
  have decimal := readDecimal?_append whole ends
  unfold readInteger?
  -- The first three cases are the marks of a base.
  split
  · next leading => exact absurd (eq_of_leading_zero signed whole ends leading) (by decide)
  · next leading => exact absurd (eq_of_leading_zero signed whole ends leading) (by decide)
  · next leading => exact absurd (eq_of_leading_zero signed whole ends leading) (by decide)
  · simp only [sign, decimal, Option.bind_eq_bind, Option.bind_some]
    cases fitting? negative (digitsValue 10 digits) <;> rfl

/-- Of all that a value may be, the text of an integer is read as an integer: the other readings are
tried first, and each of them fails at the end of the line or before. -/
theorem readNumeric?_integer (signed : Signed digits negative number) (whole : WholeText digits)
    (ends : LineEnds rest) :
    readNumeric? (number ++ rest) =
      (fitting? negative (digitsValue 10 digits)).map fun n => (.integer n, rest) := by
  rw [readNumeric?, not_startsLikeDate signed whole ends, not_startsLikeTime signed whole ends,
    readReal?_integer signed whole ends, readInteger?_integer signed whole ends]
  simp [Function.comp_def]

/-- No other value starts like an integer. Dates and times do, but they go on differently. -/
theorem readValue?_integer (signed : Signed digits negative number) (whole : WholeText digits)
    (bound depth : Nat) :
    readValue? bound (depth + 1) (number ++ rest) = readNumeric? (number ++ rest) := by
  obtain ⟨c, others, same, first⟩ : ∃ c others, number = c :: others ∧
      (c = '-' ∨ isDigit c = true) := by
    cases signed with
    | minus => exact ⟨_, _, rfl, .inl rfl⟩
    | plain =>
      obtain ⟨c, others, same, digit⟩ := exists_head_of_wholeText whole
      exact ⟨c, others, same, .inr digit⟩
  have different {mark : Char} {more : List Char} (notMinus : mark ≠ '-')
      (notDigit : isDigit mark = false) : c :: (others ++ rest) ≠ mark :: more := by
    intro equal
    obtain rfl : c = mark := (List.cons.inj equal).1
    obtain rfl | digit := first
    · exact notMinus rfl
    · exact ne_of_isDigit digit notDigit rfl
  subst same
  rw [List.cons_append, readValue?]
  all_goals
    intro more
    exact different (by decide) (by decide)

/-- The spelling of an integer is the digits of its magnitude, with its sign. -/
theorem exists_signed_integerText (n : Int64) :
    ∃ (magnitude : Nat) (negative : Bool),
      Signed (Nat.toDigits 10 magnitude) negative (integerText n) ∧
        n.toInt = if negative then -(magnitude : Int) else magnitude := by
  obtain ⟨magnitude, value, -, spelled⟩ | ⟨magnitude, value, -, -, spelled⟩ := integerText_eq n
  · exact ⟨magnitude, false, spelled ▸ .plain, value⟩
  · exact ⟨magnitude, true, spelled ▸ .minus, value⟩

/-- A 64-bit integer at the end of a line is read from its spelling, all other readings of it being
ruled out. -/
theorem readValue?_integerText (n : Int64) (ends : LineEnds rest) (bound depth : Nat) :
    readValue? bound (depth + 1) (integerText n ++ rest) = some (.integer n.toInt, rest) := by
  obtain ⟨magnitude, negative, signed, value⟩ := exists_signed_integerText n
  have whole := wholeText_toDigits magnitude
  rw [readValue?_integer signed whole, readNumeric?_integer signed whole ends,
    digitsValue_toDigits, fitting?_of_signed signed value, Option.map_some]

end SlotLang.Toml
