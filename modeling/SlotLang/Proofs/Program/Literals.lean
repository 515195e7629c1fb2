import Mathlib
import SlotLang.Machine.Value
import SlotLang.Proofs.Program.Spellings

/-!
# The text of an integer literal

A literal is read from exactly one number: the decimal digits of its value. The reader is compared
with this from both sides. What it takes for an integer is the number's whole text, since a number
ends only where no more of it can follow; and the number is the only thing in the text of the
literal that can vary.
-/

namespace SlotLang

open Json

/-! ## Numbers -/

/-- What is said of a number shows where it ends: two numbers in front of one text are one. -/
theorem Json.NumberText.eq_of_append {number number' rest rest' : List Char}
    (spelled : NumberText number) (spelled' : NumberText number') (stops : Stops rest)
    (stops' : Stops rest') (same : number ++ rest = number' ++ rest') :
    number = number' ∧ rest = rest' := by
  have passed := skipNumber_append spelled stops
  rw [same, skipNumber_append spelled' stops'] at passed
  cases passed
  exact ⟨List.append_cancel_right same, rfl⟩

/-- The spelling of an integer is a number. -/
theorem Json.numberText_integerText (n : Int64) : NumberText (integerText n) := by
  obtain ⟨magnitude, -, -, spelled⟩ | ⟨magnitude, -, -, -, spelled⟩ := integerText_eq n
  · have number := NumberText.parts (.inl rfl) (wholeText_toDigits magnitude) .absent .absent
    simpa [spelled] using number
  · have number := NumberText.parts (.inr rfl) (wholeText_toDigits magnitude) .absent .absent
    simpa [spelled] using number

/-- An integer's spelling is made of digits and a sign only. -/
theorem Json.mem_integerText {n : Int64} {c : Char} (inside : c ∈ integerText n) :
    c = '-' ∨ isDigit c = true := by
  obtain ⟨magnitude, -, -, spelled⟩ | ⟨magnitude, -, -, -, spelled⟩ := integerText_eq n
  · rw [spelled] at inside
    exact .inr (digits_toDigits magnitude c inside)
  · rw [spelled, List.mem_cons] at inside
    exact inside.imp_right (digits_toDigits magnitude c)

/-- Zero is spelled without a sign. -/
theorem Json.integerText_ne_minusZero (n : Int64) : integerText n ≠ ['-', '0'] := by
  obtain ⟨magnitude, -, -, spelled⟩ | ⟨magnitude, -, positive, -, spelled⟩ := integerText_eq n
  · have all := digits_toDigits magnitude
    intro same
    rw [← spelled, same] at all
    exact absurd (all '-' (.head _)) (by decide)
  · intro same
    have digits : Nat.toDigits 10 magnitude = ['0'] := (List.cons.inj (spelled ▸ same)).2
    have value : Nat.ofDigitChars 10 (Nat.toDigits 10 magnitude) 0 = magnitude :=
      Nat.ofDigitChars_toDigits (by decide) (by decide)
    rw [digits] at value
    exact absurd value (Nat.ne_of_lt positive)

/-- Blanks in front of a number are passed over, and nothing more. -/
theorem Json.skipBlanks_number {blanks number : List Char} (blank : Blanks blanks)
    (spelled : NumberText number) (rest : List Char) :
    skipBlanks (blanks ++ (number ++ rest)) = number ++ rest := by
  obtain ⟨c, others, rfl, numeric⟩ := spelled.head
  exact skipBlanks_append_cons blank (not_isBlank_number numeric) (others ++ rest)

/-! ## A tag and one value -/

/-- A tag in braces that are not closed yet, with a blank after the colon and more text after it. -/
def tagText (tag : String) (text : List Char) : List Char :=
  '\x7b' :: (writeString tag ++ ':' :: ' ' :: text)

/-- What begins with a brace is not blank, with one blank in front or with none. -/
theorem skipBlanks_tagText (tag : String) (text : List Char) :
    skipBlanks (' ' :: tagText tag text) = tagText tag text ∧
      skipBlanks (tagText tag text) = tagText tag text :=
  ⟨rfl, rfl⟩

section Single

variable {kind : Kind} {name tag : String} {variants : List Variant} {shape : Shape}
  (layout : kind.layout = .choice name variants)
  (found : variants.find? (·.tag == tag) = some ⟨tag, .single shape⟩)

include layout found

/-- An object with one member is spelled by its tag and the spelling of what it holds. -/
theorem Json.spells_single {value : Json} {text : List Char}
    (inner : Spells (.value shape) value text) :
    Spells (.value (.term kind)) (.object [(tag, value)]) (tagText tag (text ++ ['\x7d'])) := by
  have spelled := Spells.tagged layout (List.mem_of_find?_eq_some found) rfl inner
    (spellsString_writeString tag) .nil .nil blanks_space .nil
  simpa [braced, MemberText.text, tagText] using spelled

/-- A tag and one value are read only if the value is read from where it stands and the brace is
found after it. -/
theorem Json.of_readWithin_single {text inside rest : List Char} {value : Json} {bound : Nat}
    (starts : skipBlanks text = tagText tag inside) (within : text.length < bound)
    (read : readWithin bound (.term kind) text = .ok (value, rest)) :
    ∃ bound' inner blanks, (' ' :: inside).length < bound' ∧
      readWithin bound' shape (' ' :: inside) = .ok (inner, blanks ++ '\x7d' :: rest) ∧
      Blanks blanks ∧ value = .object [(tag, inner)] := by
  obtain ⟨bound, rfl⟩ : ∃ left, bound = left + 1 := ⟨bound - 1, by omega⟩
  have shorter : (tagText tag inside).length ≤ text.length :=
    starts ▸ (List.dropWhile_suffix _).length_le
  simp only [tagText, List.length_append, List.length_cons] at shorter
  have enough : (writeString tag).length ≤ bound := by omega
  have readTag := readString_append (spellsString_writeString tag) (Nat.le_of_succ_le enough)
    (':' :: ' ' :: inside)
  have readColon : readColon (':' :: ' ' :: inside) = .ok (' ' :: inside) :=
    readColon_append .nil _
  simp only [readWithin, readShape, layout, readChoice, starts, tagText, writeString,
    List.cons_append, skipBlanks_cons (show isBlank '"' = false from rfl), readTag, ok_bind,
    readColon, findTag, found, readContent] at read
  obtain ⟨⟨content, after⟩, readValue, ended⟩ := bind_eq_ok.mp read
  obtain ⟨⟨inner, final⟩, readInner, same⟩ := bind_eq_ok.mp readValue
  cases same
  dsimp only at ended
  split at ended
  · simp at ended
  · next closing =>
    cases ended
    obtain ⟨blanks, blank, rfl⟩ := exists_blanks closing
    exact ⟨bound, inner, blanks, by rw [List.length_cons]; omega, readInner, blank, rfl⟩
  · simp at ended

end Single

/-! ## Literals -/

/-- The text of a program that is an integer literal, with a number in it. -/
def literalText (number : String) : String :=
  "\x7b\"Exp\": \x7b\"Int\": " ++ (number ++ "\x7d\x7d")

/-- The text of a literal is the number in two objects, one for the statement and one for the
expression. -/
theorem toList_literalText (number : String) :
    (literalText number).toList =
      tagText "Exp" (tagText "Int" (number.toList ++ ['\x7d', '\x7d'])) := by
  have parts : (literalText number).toList =
      "\x7b\"Exp\": \x7b\"Int\": ".toList ++ (number.toList ++ "\x7d\x7d".toList) :=
    String.toList_append.trans (congrArg _ String.toList_append)
  rw [parts]
  rfl

/-- The decimal digits of an integer make the text of its literal. -/
theorem decode_literal (n : Int64) :
    Stmt.decode (literalText (decimal n)) = .ok (.expr (.int n)) := by
  apply Stmt.decode_of_spells
  have number : Spells (.value (.term .expr)) (.object [("Int", .int n)])
      (tagText "Int" (integerText n ++ ['\x7d'])) := spells_single rfl rfl (.integer n)
  have literal : Spells (.value (.term .stmt)) (.object [("Exp", .object [("Int", .int n)])])
      (tagText "Exp" (tagText "Int" (integerText n ++ ['\x7d']) ++ ['\x7d'])) :=
    spells_single rfl rfl number
  have whole := SpellsWhole.mk .nil literal .nil
  rw [toList_literalText, Stmt.toJson, Expr.toJson]
  simpa [tagText, integerText, decimal] using whole

/-- A literal's text is read only if its number is the decimal digits of the literal. -/
theorem of_decode_literal {number : String} (numeric : NumberText number.toList) {program : Stmt}
    (read : Stmt.decode (literalText number) = .ok program) :
    ∃ n : Int64, number = decimal n ∧ program = .expr (.int n) := by
  have readValue := readAll_of_spells (Stmt.spells_of_decode read)
  rw [toList_literalText] at readValue
  obtain ⟨⟨value, rest⟩, readWhole, ended⟩ := bind_eq_ok.mp readValue
  obtain ⟨bound, inner, blanks, within, readInner, blank, rfl⟩ :=
    of_readWithin_single rfl rfl (skipBlanks_tagText "Exp" _).2 (Nat.lt_succ_self _) readWhole
  obtain ⟨bound, value, moreBlanks, within, readNumber, moreBlank, rfl⟩ :=
    of_readWithin_single rfl rfl (skipBlanks_tagText "Int" _).1 within readInner
  obtain ⟨spaces, text, spaced, spelled, same⟩ := readsOnlySpellings_readWithin bound readNumber
  cases spelled with
  | integer n =>
    have spelledInteger := numberText_integerText n
    have same := congrArg skipBlanks same
    rw [skipBlanks_number spaced spelledInteger] at same
    have skipped := skipBlanks_number blanks_space numeric ['\x7d', '\x7d']
    rw [List.singleton_append] at skipped
    rw [skipped] at same
    obtain ⟨digits, -⟩ := numeric.eq_of_append spelledInteger (.cons (by decide) _)
      (.append moreBlank (.cons (by decide) _)) same
    refine ⟨n, String.toList_injective digits, ?_⟩
    dsimp only at ended
    split at ended
    · apply Stmt.toJson_injective
      rw [Stmt.toJson, Expr.toJson]
      exact (Except.ok.inj ended).symm
    · simp at ended

/-- An integer literal is read from the decimal digits of a 64-bit integer and from no other number,
however long, and is read as that integer. So a number with a fraction or an exponent is refused,
and minus zero is; and the digits of an integer are read just if it is one of 64 bits, whatever it
would be when cut to 64 bits. -/
theorem literal_read_iff_decimal {number : String} (numeric : NumberText number.toList) :
    (∀ program, Stmt.decode (literalText number) = .ok program ↔
      ∃ n : Int64, number = decimal n ∧ program = .expr (.int n)) ∧
    (number = "-0" ∨ '.' ∈ number.toList ∨ 'e' ∈ number.toList ∨ 'E' ∈ number.toList →
      ∃ failure, Stmt.decode (literalText number) = .error failure) ∧
    ∀ z : Int, number = toString z →
      ((∃ program, Stmt.decode (literalText number) = .ok program) ↔ -2 ^ 63 ≤ z ∧ z < 2 ^ 63) := by
  have exactly (program : Stmt) : Stmt.decode (literalText number) = .ok program ↔
      ∃ n : Int64, number = decimal n ∧ program = .expr (.int n) := by
    constructor
    · exact of_decode_literal numeric
    · rintro ⟨n, rfl, rfl⟩
      exact decode_literal n
  refine ⟨exactly, ?_, ?_⟩
  · intro other
    cases read : Stmt.decode (literalText number) with
    | error failure => exact ⟨failure, rfl⟩
    | ok program =>
      obtain ⟨n, rfl, -⟩ := (exactly program).mp read
      have only (c : Char) (inside : c ∈ (decimal n).toList) : c = '-' ∨ isDigit c = true :=
        mem_integerText inside
      rcases other with zero | point | lower | upper
      · exact absurd (congrArg String.toList zero) (integerText_ne_minusZero n)
      · exact absurd (only _ point) (by decide)
      · exact absurd (only _ lower) (by decide)
      · exact absurd (only _ upper) (by decide)
  · rintro z rfl
    constructor
    · rintro ⟨program, read⟩
      obtain ⟨n, same, -⟩ := (exactly program).mp read
      have value : z = n.toInt := Int.repr_injective same
      exact ⟨value ▸ n.le_toInt, value ▸ n.toInt_lt⟩
    · rintro ⟨least, most⟩
      refine ⟨.expr (.int (Int64.ofInt z)), (exactly _).mpr ⟨Int64.ofInt z, ?_, rfl⟩⟩
      rw [decimal, Int64.toInt_ofInt_of_le least most]

/-- The least integer of 64 bits is read. The integer below it, one that is 1 when cut to 64 bits,
minus zero and a number with an exponent are not. -/
theorem literal_read_iff_decimal_limits :
    Stmt.decode (literalText "-9223372036854775808") = .ok (.expr (.int Int64.minValue)) ∧
      (¬∃ program, Stmt.decode (literalText "-9223372036854775809") = .ok program) ∧
      (¬∃ program, Stmt.decode (literalText "18446744073709551617") = .ok program) ∧
      (∃ failure, Stmt.decode (literalText "-0") = .error failure) ∧
      ∃ failure, Stmt.decode (literalText "1e0") = .error failure := by
  have least : NumberText "-9223372036854775808".toList := numberText_integerText Int64.minValue
  have below : NumberText "-9223372036854775809".toList :=
    .parts (.inr rfl) (wholeText_toDigits 9223372036854775809) .absent .absent
  have wrapping : NumberText "18446744073709551617".toList :=
    .parts (.inl rfl) (wholeText_toDigits 18446744073709551617) .absent .absent
  have minusZero : NumberText "-0".toList := .parts (.inr rfl) .zero .absent .absent
  have exponent : NumberText "1e0".toList :=
    .parts (.inl rfl) (wholeText_toDigits 1) .absent
      (.digits (.inl rfl) (.inl rfl) (digits_toDigits 0))
  refine ⟨?_, ?_, ?_, ?_, ?_⟩
  · exact ((literal_read_iff_decimal least).1 _).mpr ⟨Int64.minValue, rfl, rfl⟩
  · intro read
    have bounds := ((literal_read_iff_decimal below).2.2 (-9223372036854775809) rfl).mp read
    exact absurd bounds.1 (by decide)
  · intro read
    have bounds := ((literal_read_iff_decimal wrapping).2.2 18446744073709551617 rfl).mp read
    exact absurd bounds.2 (by decide)
  · exact (literal_read_iff_decimal minusZero).2.1 (.inl rfl)
  · exact (literal_read_iff_decimal exponent).2.1 (.inr (.inr (.inl (by decide))))

end SlotLang
