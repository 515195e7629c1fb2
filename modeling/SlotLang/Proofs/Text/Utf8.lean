import Mathlib.Data.List.Basic
import SlotLang.Text.Span

/-!
# The bytes of a text

A text as the bytes of its UTF-8 form. Two facts about the form are shown: only a line feed is
written with the byte of a line feed, and texts compare as their bytes do.
-/

namespace SlotLang.Text

/-- The UTF-8 form of a text. -/
def bytes (text : List Char) : List UInt8 :=
  text.flatMap String.utf8EncodeChar

/-- The bytes of a text are those of its first character and then those of the others. -/
theorem bytes_cons (c : Char) (text : List Char) :
    bytes (c :: text) = String.utf8EncodeChar c ++ bytes text :=
  rfl

/-- So are their numbers. -/
theorem byteLength_cons (c : Char) (text : List Char) :
    byteLength (c :: text) = c.utf8Size + byteLength text :=
  rfl

/-- The length of a text counts the bytes of its UTF-8 form. -/
theorem length_bytes (text : List Char) : (bytes text).length = byteLength text := by
  induction text with
  | nil => rfl
  | cons c text inductionHypothesis =>
    rw [bytes_cons, List.length_append, String.length_utf8EncodeChar, inductionHypothesis,
      byteLength_cons]

/-- The bytes of two texts, one after the other, are those of the one and then those of the
other. -/
theorem bytes_append (text more : List Char) : bytes (text ++ more) = bytes text ++ bytes more :=
  List.flatMap_append

/-- And their lengths add up. -/
theorem byteLength_append (text more : List Char) :
    byteLength (text ++ more) = byteLength text + byteLength more := by
  rw [← length_bytes, bytes_append, List.length_append, length_bytes, length_bytes]

/-! ## Bytes as numbers -/

/-- Numbers below 256 are in the same order as bytes. -/
theorem ofNat_lt_ofNat_iff {m n : Nat} (left : m < 256) (right : n < 256) :
    UInt8.ofNat m < UInt8.ofNat n ↔ m < n := by
  rw [UInt8.lt_iff_toNat_lt, UInt8.toNat_ofNat_of_lt' left, UInt8.toNat_ofNat_of_lt' right]

/-- And they are different as bytes if they are different. -/
theorem ofNat_eq_ofNat_iff {m n : Nat} (left : m < 256) (right : n < 256) :
    UInt8.ofNat m = UInt8.ofNat n ↔ m = n := by
  rw [← UInt8.toNat_inj, UInt8.toNat_ofNat_of_lt' left, UInt8.toNat_ofNat_of_lt' right]

/-- No code point is larger than the last one there is. -/
theorem code_lt (c : Char) : c.val.toNat < 0x110000 := by
  obtain small | ⟨-, small⟩ := c.valid
  · exact Nat.lt_trans small (by decide)
  · exact small

/-! ## Line feeds -/

/-- The byte of a line feed. -/
def lineFeed : UInt8 :=
  UInt8.ofNat 10

/-- No byte of another character is that of a line feed. -/
theorem lineFeed_not_mem {c : Char} (other : c ≠ '\n') : lineFeed ∉ String.utf8EncodeChar c := by
  have code : c.val.toNat ≠ 10 := fun same => other (Char.ext (UInt32.toNat_inj.mp same))
  have bounded := code_lt c
  simp only [String.utf8EncodeChar, lineFeed]
  generalize c.val.toNat = n at code bounded ⊢
  split_ifs <;>
    simp (disch := omega) only [List.mem_cons, List.not_mem_nil, or_false, ofNat_eq_ofNat_iff] <;>
    omega

/-! ## Order -/

/-- The bytes of the lesser of two characters are less, whatever follows. Codes are compared by
their digits to the base 64, from the last one up. -/
theorem utf8EncodeChar_lt {c d : Char} (less : c < d) (rest rest' : List UInt8) :
    String.utf8EncodeChar c ++ rest < String.utf8EncodeChar d ++ rest' := by
  have codes : c.val.toNat < d.val.toNat := UInt32.lt_iff_toNat_lt.mp (Char.lt_def.mp less)
  have bounded := code_lt d
  simp only [String.utf8EncodeChar]
  generalize c.val.toNat = m, d.val.toNat = n at codes bounded ⊢
  have low : m / 64 < n / 64 ∨ m / 64 = n / 64 ∧ m % 64 < n % 64 := by omega
  have middle : m / 64 < n / 64 →
      m / 4096 < n / 4096 ∨ m / 4096 = n / 4096 ∧ m / 64 % 64 < n / 64 % 64 := by omega
  have high : m / 4096 < n / 4096 →
      m / 262144 < n / 262144 ∨ m / 262144 = n / 262144 ∧ m / 4096 % 64 < n / 4096 % 64 := by omega
  have leading : m / 262144 % 8 = m / 262144 ∧ n / 262144 % 8 = n / 262144 :=
    ⟨Nat.mod_eq_of_lt (by omega), Nat.mod_eq_of_lt (by omega)⟩
  -- The cases are the numbers of bytes of the two characters.
  split_ifs <;>
    simp (disch := omega) only [List.cons_append, List.nil_append, List.cons_lt_cons_iff,
      ofNat_lt_ofNat_iff, ofNat_eq_ofNat_iff] <;>
    omega

/-- Texts compare as their bytes do. -/
theorem bytes_lt {text text' : List Char} (less : text < text') : bytes text < bytes text' := by
  induction text generalizing text' with
  | nil =>
    cases text' with
    | nil => exact absurd less (List.lt_irrefl [])
    | cons d text' =>
      obtain ⟨first, others, same⟩ : ∃ first others, String.utf8EncodeChar d = first :: others :=
        List.exists_cons_of_ne_nil String.utf8EncodeChar_ne_nil
      rw [bytes_cons, same]
      exact List.nil_lt_cons _ _
  | cons c text inductionHypothesis =>
    cases text' with
    | nil => exact absurd less (List.not_lt_nil _)
    | cons d text' =>
      rw [bytes_cons, bytes_cons]
      obtain lesser | ⟨rfl, later⟩ := List.cons_lt_cons_iff.mp less
      · exact utf8EncodeChar_lt lesser _ _
      · exact List.append_left_lt (inductionHypothesis later)

end SlotLang.Text
