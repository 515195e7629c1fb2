import SlotLang.Proofs.Json.Brackets

/-!
# Passing over any value

The form of JSON values, whatever they mean. Every text of this form is passed over, and what
follows it is left. A string that is passed over need not mean anything: half of a pair of code
units may stand in it alone.
-/

namespace SlotLang.Json

/-! ## The form of a value -/

/-- What may stand inside a string, meaningful or not. Escapes that stand for no character are
admitted, since a string that is passed over is not decoded. -/
inductive InsideText : List Char → Prop where
  /-- Nothing more. -/
  | nil : InsideText []
  /-- A character that stands for itself. -/
  | raw {c : Char} {text : List Char} (plain : Plain c) (others : InsideText text) :
      InsideText (c :: text)
  /-- A backslash and a letter. -/
  | short {letter c : Char} {text : List Char} (escape : ShortEscape letter c)
      (others : InsideText text) : InsideText ('\\' :: letter :: text)
  /-- A code unit, whether or not it is half of a pair. -/
  | unit {n : Nat} {digits text : List Char} (spelled : SpellsUnit n digits)
      (others : InsideText text) : InsideText ('\\' :: 'u' :: (digits ++ text))

/-- A string with its quotes. -/
inductive StringText : List Char → Prop where
  | quoted {text : List Char} (inside : InsideText text) : StringText ('"' :: (text ++ ['"']))

/-- Any value. Where a value is passed over, nothing is asked of it but that it is one. -/
inductive ValueText : List Char → Prop where
  /-- The word for null. -/
  | null : ValueText ['n', 'u', 'l', 'l']
  /-- The word for true. -/
  | true : ValueText ['t', 'r', 'u', 'e']
  /-- The word for false. -/
  | false : ValueText ['f', 'a', 'l', 's', 'e']
  /-- A number. -/
  | number {text : List Char} (spelled : NumberText text) : ValueText text
  /-- A string. -/
  | string {text : List Char} (spelled : StringText text) : ValueText text
  /-- Items in brackets. -/
  | list {pieces : List (List Char)} {body blanks : List Char}
      (each : ∀ piece ∈ pieces, ValueText piece) (separated : Separated .true pieces body)
      (blank : Blanks blanks) : ValueText ('[' :: (body ++ (blanks ++ [']'])))
  /-- Members in braces. -/
  | object {members : List MemberText} {body blanks : List Char}
      (keys : ∀ member ∈ members, StringText member.key ∧ Blanks member.before ∧
        Blanks member.after)
      (each : ∀ member ∈ members, ValueText member.value)
      (separated : Separated .true (members.map MemberText.text) body) (blank : Blanks blanks) :
      ValueText ('\x7b' :: (body ++ (blanks ++ ['\x7d'])))

/-- A number starts with a sign or a digit. -/
theorem NumberText.head {text : List Char} (spelled : NumberText text) :
    ∃ c rest, text = c :: rest ∧ (c = '-' ∨ isDigit c = true) := by
  obtain ⟨signed, first, -, -⟩ := spelled
  rcases signed with rfl | rfl
  · cases first with
    | zero => exact ⟨'0', _, rfl, .inr (by decide)⟩
    | @digits c _ _ all => exact ⟨c, _, rfl, .inr (all c (List.mem_cons_self ..))⟩
  · exact ⟨'-', _, rfl, .inl rfl⟩

/-- A sign or a digit may start a value. -/
theorem opens_of_number {c : Char} (numeric : c = '-' ∨ isDigit c = true) (rest : List Char) :
    Opens (c :: rest) := by
  refine ⟨c, rest, rfl, not_isBlank_number numeric, ?_, ?_⟩
  · rintro rfl
    exact absurd numeric (by decide)
  · rintro rfl
    exact absurd numeric (by decide)

/-- A value does not start with a blank or a closing bracket, so it is not taken for the end of a
bracket. -/
theorem ValueText.opens {text : List Char} (spelled : ValueText text) : Opens text := by
  cases spelled with
  | null | true | false | list | object => exact ⟨_, _, rfl, by decide, by decide, by decide⟩
  | number spelled =>
    obtain ⟨c, rest, rfl, numeric⟩ := spelled.head
    exact opens_of_number numeric rest
  | string spelled =>
    cases spelled
    exact ⟨_, _, rfl, by decide, by decide, by decide⟩

/-! ## Strings -/

/-- The inside of a string is passed over with its closing quote. By induction over the inside; a
quote in it stands behind a backslash. -/
theorem skipString_append {text : List Char} (inside : InsideText text) {bound : Nat}
    (enough : text.length < bound) (rest : List Char) :
    skipString bound (text ++ '"' :: rest) = .ok rest := by
  induction inside generalizing bound with
  | nil =>
    obtain ⟨bound, rfl⟩ : ∃ left, bound = left + 1 := ⟨bound - 1, by omega⟩
    simp [skipString]
  | @raw c text plain _ inductionHypothesis =>
    rw [List.length_cons] at enough
    obtain ⟨bound, rfl⟩ : ∃ left, bound = left + 1 := ⟨bound - 1, by omega⟩
    have room : text.length < bound := by omega
    have printable : ¬ c.toNat < 32 := Nat.not_lt.mpr plain.2.2
    simp [skipString, plain.1, plain.2.1, printable, inductionHypothesis room]
  | @short letter c text escape _ inductionHypothesis =>
    simp only [List.length_cons] at enough
    obtain ⟨bound, rfl⟩ : ∃ left, bound = left + 1 := ⟨bound - 1, by omega⟩
    have room : text.length < bound := by omega
    have notUnit : letter ≠ 'u' := by
      rintro rfl
      cases escape
    simp [skipString, shortEscape?_of_shortEscape escape, inductionHypothesis room]
  | @unit n digits text spelled _ inductionHypothesis =>
    simp only [List.length_cons, List.length_append] at enough
    obtain ⟨bound, rfl⟩ : ∃ left, bound = left + 1 := ⟨bound - 1, by omega⟩
    have room : text.length < bound := by omega
    simp [skipString, readHex_append spelled, inductionHypothesis room]

/-! ## Lists and objects -/

/-- Wherever a text stands, in a text shorter than the limit, it is passed over. It may have blanks
in front of it, and what follows must end a number. -/
def Passes (skip : List Char → Except Failure (List Char)) (limit : Nat) (text : List Char) :
    Prop :=
  ∀ blanks rest, Blanks blanks → Stops rest → (blanks ++ (text ++ rest)).length < limit →
    skip (blanks ++ (text ++ rest)) = .ok rest

variable {skip : List Char → Except Failure (List Char)} {limit : Nat}

/-- One piece of a list is passed over, with the comma before it if it is not the first. What is
left is the other pieces. -/
theorem skipItems_step {piece body : List Char} {pieces : List (List Char)} {first : Bool}
    (separated : Separated first (piece :: pieces) body) (passes : Passes skip limit piece)
    (opens : Opens piece) (bound : Nat) {tail : List Char} (stops : Stops tail)
    (within : (body ++ tail).length < limit) :
    ∃ later, Separated false pieces later ∧ later.length < body.length ∧
      skipItems skip (bound + 1) first (body ++ tail) =
        skipItems skip bound false (later ++ tail) := by
  cases separated with
  | @first blanks _ later _ blank others =>
    have passed := passes [] (later ++ tail) .nil (others.stops stops)
      (by simp only [List.length_append, List.length_nil] at within ⊢; omega)
    obtain ⟨c, text, rfl, solid, notClose, -⟩ := opens
    refine ⟨later, others, by simp; omega, ?_⟩
    simp only [List.nil_append, List.cons_append] at passed
    simp [skipItems, skipBlanks_append_cons blank solid, passed]
  | @next blanks more _ later _ blank moreBlank others =>
    have passed := passes more (later ++ tail) moreBlank (others.stops stops)
      (by simp only [List.length_append, List.length_cons] at within ⊢; omega)
    have comma : isBlank ',' = false := by decide
    refine ⟨later, others, by simp; omega, ?_⟩
    simp [skipItems, skipBlanks_append_cons blank comma, passed]

/-- The pieces of a list are passed over up to its closing bracket. By induction over the pieces,
the first apart from the others by its comma only. -/
theorem skipItems_append {pieces : List (List Char)}
    (passes : ∀ piece ∈ pieces, Passes skip limit piece) (opens : ∀ piece ∈ pieces, Opens piece)
    {first : Bool} {body blanks rest : List Char} (separated : Separated first pieces body)
    (blank : Blanks blanks) {bound : Nat}
    (within : (body ++ (blanks ++ ']' :: rest)).length < limit)
    (enough : (body ++ (blanks ++ ']' :: rest)).length < bound) :
    skipItems skip bound first (body ++ (blanks ++ ']' :: rest)) = .ok rest := by
  induction pieces generalizing first body bound with
  | nil =>
    cases separated
    obtain ⟨bound, rfl⟩ : ∃ left, bound = left + 1 := ⟨bound - 1, by omega⟩
    simp [skipItems, skipBlanks_append_cons blank, isBlank]
  | cons piece pieces inductionHypothesis =>
    obtain ⟨passesPiece, passes⟩ := List.forall_mem_cons.mp passes
    obtain ⟨opensPiece, opens⟩ := List.forall_mem_cons.mp opens
    obtain ⟨bound, rfl⟩ : ∃ left, bound = left + 1 := ⟨bound - 1, by omega⟩
    obtain ⟨later, others, shorter, step⟩ := skipItems_step separated passesPiece opensPiece bound
      (.append blank (.cons (by decide) rest)) within
    rw [List.length_append] at within enough
    rw [step]
    exact inductionHypothesis passes opens others (by rw [List.length_append]; omega)
      (by rw [List.length_append]; omega)

/-- A key and its value are passed over, with the colon between them and whatever blanks there
are. -/
theorem skipMember_append {member : MemberText} (key : StringText member.key)
    (before : Blanks member.before) (after : Blanks member.after)
    (passes : Passes skip limit member.value) {bound : Nat} {blanks rest : List Char}
    (blank : Blanks blanks) (stops : Stops rest)
    (within : (member.text ++ rest).length < limit) (enough : member.text.length ≤ bound) :
    skipMember skip bound (blanks ++ (member.text ++ rest)) = .ok rest := by
  obtain ⟨key, spaces, moreSpaces, value⟩ := member
  obtain ⟨inside⟩ := key
  rename_i text
  have passed := passes moreSpaces rest after stops
    (by simp [MemberText.text] at within ⊢; omega)
  have colon := readColon_append before (moreSpaces ++ (value ++ rest))
  have room : text.length < bound := by
    simp [MemberText.text] at enough
    omega
  have skipped := skipString_append inside room (spaces ++ ':' :: (moreSpaces ++ (value ++ rest)))
  have quote : isBlank '"' = false := by decide
  simp [skipMember, MemberText.text, skipBlanks_append_cons blank quote, skipped, colon, passed]

/-- A string starts with a quote, and so does a member. -/
theorem MemberText.head {member : MemberText} (key : StringText member.key) :
    ∃ text, member.text = '"' :: text := by
  obtain ⟨key, before, after, value⟩ := member
  obtain ⟨inside⟩ := key
  exact ⟨_, rfl⟩

/-- One member of an object is passed over. -/
theorem skipMembers_step {member : MemberText} {body : List Char} {pieces : List (List Char)}
    {first : Bool} (separated : Separated first (member.text :: pieces) body)
    (key : StringText member.key) (before : Blanks member.before) (after : Blanks member.after)
    (passes : Passes skip limit member.value) {bound : Nat} {tail : List Char} (stops : Stops tail)
    (within : (body ++ tail).length < limit) (enough : (body ++ tail).length < bound + 1) :
    ∃ later, Separated false pieces later ∧ later.length < body.length ∧
      skipMembers skip (bound + 1) first (body ++ tail) =
        skipMembers skip bound false (later ++ tail) := by
  obtain ⟨text, quoted⟩ := MemberText.head key
  have quote : isBlank '"' = false := by decide
  have skipped : ∀ {more later : List Char}, Blanks more → Separated false pieces later →
      (member.text ++ later).length ≤ body.length →
      skipMember skip bound (more ++ (member.text ++ (later ++ tail))) = .ok (later ++ tail) := by
    intro more later moreBlank others fits
    simp only [List.length_append] at fits within enough
    exact skipMember_append key before after passes moreBlank (others.stops stops)
      (by simp only [List.length_append]; omega) (by omega)
  cases separated with
  | @first blanks _ later _ blank others =>
    have passed := skipped .nil others (by simp)
    rw [quoted] at passed ⊢
    refine ⟨later, others, by simp; omega, ?_⟩
    simp only [List.nil_append, List.cons_append] at passed
    simp [skipMembers, skipBlanks_append_cons blank quote, passed]
  | @next blanks more _ later _ blank moreBlank others =>
    have passed := skipped moreBlank others (by simp; omega)
    have comma : isBlank ',' = false := by decide
    refine ⟨later, others, by simp; omega, ?_⟩
    simp [skipMembers, skipBlanks_append_cons blank comma, passed]

/-- The members of an object are passed over up to its closing brace, as the items of a list are. -/
theorem skipMembers_append {members : List MemberText}
    (keys : ∀ member ∈ members, StringText member.key ∧ Blanks member.before ∧ Blanks member.after)
    (passes : ∀ member ∈ members, Passes skip limit member.value) {first : Bool}
    {body blanks rest : List Char} (separated : Separated first (members.map MemberText.text) body)
    (blank : Blanks blanks) {bound : Nat}
    (within : (body ++ (blanks ++ '\x7d' :: rest)).length < limit)
    (enough : (body ++ (blanks ++ '\x7d' :: rest)).length < bound) :
    skipMembers skip bound first (body ++ (blanks ++ '\x7d' :: rest)) = .ok rest := by
  induction members generalizing first body bound with
  | nil =>
    cases separated
    obtain ⟨bound, rfl⟩ : ∃ left, bound = left + 1 := ⟨bound - 1, by omega⟩
    simp [skipMembers, skipBlanks_append_cons blank, isBlank]
  | cons member members inductionHypothesis =>
    obtain ⟨⟨key, before, after⟩, keys⟩ := List.forall_mem_cons.mp keys
    obtain ⟨passesMember, passes⟩ := List.forall_mem_cons.mp passes
    obtain ⟨bound, rfl⟩ : ∃ left, bound = left + 1 := ⟨bound - 1, by omega⟩
    obtain ⟨later, others, shorter, step⟩ := skipMembers_step separated key before after
      passesMember (.append blank (.cons (by decide) rest)) within enough
    rw [List.length_append] at within enough
    rw [step]
    exact inductionHypothesis keys passes others (by rw [List.length_append]; omega)
      (by rw [List.length_append]; omega)

/-! ## Values -/

/-- Any value is passed over, by the reader whose bound is greater than the length of the text. The
induction is on the bound, and what is inside brackets is shorter. -/
theorem passes_skipValue {text : List Char} (spelled : ValueText text) (bound : Nat) :
    Passes (skipValue bound) bound text := by
  induction spelled generalizing bound with
  | null | true | false =>
    intro blanks rest blank _ within
    obtain ⟨bound, rfl⟩ : ∃ left, bound = left + 1 := ⟨bound - 1, by omega⟩
    rw [skipValue, List.cons_append, skipBlanks_append_cons blank (by decide)]
    exact readWord_append _ rest
  | number spelled =>
    intro blanks rest blank stops within
    obtain ⟨bound, rfl⟩ : ∃ left, bound = left + 1 := ⟨bound - 1, by omega⟩
    have skipped := skipNumber_append spelled stops
    obtain ⟨c, others, rfl, numeric⟩ := spelled.head
    have other : c ≠ 'n' ∧ c ≠ 't' ∧ c ≠ 'f' ∧ c ≠ '"' ∧ c ≠ '[' ∧ c ≠ '\x7b' := by
      refine ⟨?_, ?_, ?_, ?_, ?_, ?_⟩ <;> rintro rfl <;> exact absurd numeric (by decide)
    rw [List.cons_append] at skipped ⊢
    rw [skipValue, skipBlanks_append_cons blank (not_isBlank_number numeric)]
    simp [other, numeric, skipped]
  | string spelled =>
    intro blanks rest blank _ within
    obtain ⟨bound, rfl⟩ : ∃ left, bound = left + 1 := ⟨bound - 1, by omega⟩
    obtain ⟨inside⟩ := spelled
    simp only [List.length_append, List.length_cons] at within
    rw [skipValue, List.cons_append, skipBlanks_append_cons blank (by decide), List.append_assoc]
    exact skipString_append inside (by omega) rest
  | list each separated blank inductionHypothesis =>
    intro spaces rest spaced _ within
    obtain ⟨bound, rfl⟩ : ∃ left, bound = left + 1 := ⟨bound - 1, by omega⟩
    simp only [List.cons_append, List.append_assoc, List.length_append, List.length_cons,
      List.nil_append] at within ⊢
    rw [skipValue, skipBlanks_append_cons spaced (by decide)]
    exact skipItems_append (fun piece inside => inductionHypothesis piece inside bound)
      (fun piece inside => (each piece inside).opens) separated blank
      (by simp only [List.length_append, List.length_cons]; omega)
      (by simp only [List.length_append, List.length_cons]; omega)
  | object keys each separated blank inductionHypothesis =>
    intro spaces rest spaced _ within
    obtain ⟨bound, rfl⟩ : ∃ left, bound = left + 1 := ⟨bound - 1, by omega⟩
    simp only [List.cons_append, List.append_assoc, List.length_append, List.length_cons,
      List.nil_append] at within ⊢
    rw [skipValue, skipBlanks_append_cons spaced (by decide)]
    exact skipMembers_append keys (fun member inside => inductionHypothesis member inside bound)
      separated blank (by simp only [List.length_append, List.length_cons]; omega)
      (by simp only [List.length_append, List.length_cons]; omega)

end SlotLang.Json
