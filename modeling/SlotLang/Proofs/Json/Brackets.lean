import SlotLang.Proofs.Json.Numbers

/-!
# How bracketed pieces may be laid out

Between two brackets stand pieces with a comma between each two, and blanks before each piece, each
comma and the closing bracket. A piece is the text of a value, or a key and a value with a colon
between them. The readers that step from one piece to the next find each piece and stop at the
closing bracket.
-/

namespace SlotLang.Json

/-! ## Layout -/

/-- Pieces of text with a comma between each two and blanks anywhere between. The flag says whether
they start with the first piece, before which no comma stands. -/
inductive Separated : Bool → List (List Char) → List Char → Prop where
  /-- No piece, and no text. -/
  | none (first : Bool) : Separated first [] []
  /-- The first piece, with blanks in front of it. -/
  | first {blanks piece body : List Char} {pieces : List (List Char)} (blank : Blanks blanks)
      (others : Separated false pieces body) :
      Separated true (piece :: pieces) (blanks ++ (piece ++ body))
  /-- A further piece, with a comma in front of it and blanks on both sides of the comma. -/
  | next {blanks more piece body : List Char} {pieces : List (List Char)} (blank : Blanks blanks)
      (moreBlank : Blanks more) (others : Separated false pieces body) :
      Separated false (piece :: pieces) (blanks ++ ',' :: (more ++ (piece ++ body)))

/-- A text that may start a value: it starts neither with a blank nor with a closing bracket. By
this a reader tells a value from the end of the bracket that it stands in. -/
def Opens (text : List Char) : Prop :=
  ∃ c rest, text = c :: rest ∧ isBlank c = false ∧ c ≠ ']' ∧ c ≠ '\x7d'

/-- A key and a value as they stand in a text, each character of it accounted for. -/
structure MemberText where
  /-- The key, with its quotes. -/
  key : List Char
  /-- What stands between the key and the colon. -/
  before : List Char
  /-- What stands between the colon and the value. -/
  after : List Char
  /-- The value. -/
  value : List Char

/-- The whole text of a key and a value. -/
def MemberText.text (member : MemberText) : List Char :=
  member.key ++ (member.before ++ ':' :: (member.after ++ member.value))

/-! ## What follows a piece -/

/-- A number ends before a blank, if it ends before what follows the blanks. There may be none. -/
theorem Stops.append {blanks rest : List Char} (blank : Blanks blanks) (stops : Stops rest) :
    Stops (blanks ++ rest) := by
  cases blanks with
  | nil => exact stops
  | cons c blanks =>
    rintro _ ⟨⟩
    have isBlank := blank c (List.mem_cons_self ..)
    simp only [Json.isBlank, Bool.or_eq_true, beq_iff_eq, or_assoc] at isBlank
    rcases isBlank with rfl | rfl | rfl | rfl <;> decide

/-- A number ends before a character that could not be more of it. -/
theorem Stops.cons {c : Char} (ends : isDigit c = false ∧ c ≠ '.' ∧ c ≠ 'e' ∧ c ≠ 'E')
    (rest : List Char) : Stops (c :: rest) := by
  rintro _ ⟨⟩
  exact ends

/-- Where there are no pieces there is nothing. -/
theorem Separated.eq_nil {first : Bool} {body : List Char} (separated : Separated first [] body) :
    body = [] := by
  cases separated
  rfl

/-- A number ends before what follows a piece: the comma of the next one, or what follows them
all. -/
theorem Separated.stops {pieces : List (List Char)} {body rest : List Char}
    (separated : Separated false pieces body) (stops : Stops rest) : Stops (body ++ rest) := by
  cases separated with
  | none => exact stops
  | next blank =>
    rw [List.append_assoc]
    exact .append blank (.cons (by decide) _)

/-! ## From piece to piece -/

/-- No item is found where a list ends. -/
theorem nextItem_close {blanks : List Char} (blank : Blanks blanks) (first : Bool)
    (rest : List Char) : nextItem first (blanks ++ ']' :: rest) = .ok none := by
  simp [nextItem, skipBlanks_append_cons blank, isBlank]

/-- The next piece of a list is found, behind the comma if it is not the first. The bound on lengths
is what the reader has to spend. -/
theorem nextItem_append {first : Bool} {piece body : List Char} {pieces : List (List Char)}
    (separated : Separated first (piece :: pieces) body) (opens : Opens piece) :
    ∃ later, Separated false pieces later ∧ piece.length + later.length ≤ body.length ∧
      ∀ rest, nextItem first (body ++ rest) = .ok (some (piece ++ (later ++ rest))) := by
  obtain ⟨c, others, rfl, solid, notClose, -⟩ := opens
  cases separated with
  | @first blanks _ later _ blank separated =>
    refine ⟨later, separated, by simp; omega, fun rest => ?_⟩
    simp [nextItem, skipBlanks_append_cons blank solid]
  | @next blanks more _ later _ blank moreBlank separated =>
    refine ⟨later, separated, by simp; omega, fun rest => ?_⟩
    have comma : isBlank ',' = false := by decide
    simp only [nextItem, List.cons_append, List.append_assoc, skipBlanks_append_cons blank comma,
      Char.reduceEq, imp_self, Bool.false_eq_true, if_false, if_true,
      skipBlanks_append_cons moreBlank solid]
    split
    · contradiction
    · rename_i same
      exact absurd (List.cons.inj same).1 notClose
    · rfl

/-- No member is found where an object ends. -/
theorem nextMember_close {blanks : List Char} (blank : Blanks blanks) (first : Bool)
    (rest : List Char) : nextMember first (blanks ++ '\x7d' :: rest) = .ok none := by
  simp [nextMember, skipBlanks_append_cons blank, isBlank]

/-- The next key of an object is found, behind its opening quote. Reading it makes the text left
shorter, which is what the bound on a reader counts. -/
theorem nextMember_append {first : Bool} {text body : List Char} {pieces : List (List Char)}
    (separated : Separated first (('"' :: text) :: pieces) body) :
    ∃ later, Separated false pieces later ∧ text.length + later.length < body.length ∧
      ∀ rest, nextMember first (body ++ rest) = .ok (some (text ++ (later ++ rest))) := by
  have quote : isBlank '"' = false := by decide
  cases separated with
  | @first blanks _ later _ blank separated =>
    refine ⟨later, separated, by simp; omega, fun rest => ?_⟩
    simp [nextMember, skipBlanks_append_cons blank quote]
  | @next blanks more _ later _ blank moreBlank separated =>
    refine ⟨later, separated, by simp; omega, fun rest => ?_⟩
    have comma : isBlank ',' = false := by decide
    simp [nextMember, skipBlanks_append_cons blank comma, skipBlanks_append_cons moreBlank quote]

/-- A bracket whose inside has been read is finished by its closing bracket, with blanks before
it. -/
theorem closed_append {α : Type} {close : Char} {blanks : List Char} (blank : Blanks blanks)
    (solid : isBlank close = false) (value : α) (rest : List Char) :
    closed close (.ok (value, blanks ++ close :: rest)) = .ok (value, rest) := by
  simp [closed, findClose, skipBlanks_append_cons blank solid]

end SlotLang.Json
