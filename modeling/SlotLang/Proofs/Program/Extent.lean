import SlotLang.Proofs.Program.Spellings

/-!
# Where the text of a program ends

A program's text is an object in braces, and its last brace shows where it ends: the reader stops
there whatever follows. Hence only blanks can follow a text that is read if the whole is read too.
A text that is cut short before its last brace cannot be read, then, since a brace follows it.
-/

namespace SlotLang

open Json

/-- A program's spelling ends with a brace. Up to there it is read, whatever follows. -/
theorem Json.Spells.ends_with_brace {value : Json} {text : List Char}
    (spelled : Spells (.value (.term .stmt)) value text) :
    (∃ body, text = body ++ ['\x7d']) ∧
    ∀ (bound : Nat) (blanks rest : List Char), Blanks blanks →
      (blanks ++ (text ++ rest)).length < bound →
      readWithin bound (.term .stmt) (blanks ++ (text ++ rest)) = .ok (value, rest) := by
  cases spelled with
  | tag layout known | tagNull layout known =>
    -- No tag of a statement stands alone.
    cases layout
    simp at known
  | untagged layout => cases layout
  | @tagged _ _ tag _ content form value key before after text blanks moreBlanks layout known beside
      inner spelled blank blankBefore blankAfter moreBlank =>
    constructor
    · exact ⟨'\x7b' :: (blanks ++ (MemberText.text ⟨key, before, after, text⟩ ++ moreBlanks)),
        by simp [braced]⟩
    · intro bound spaces rest spaced within
      exact readWithin_tagged layout known beside inner.reads spelled blank blankBefore blankAfter
        moreBlank spaced within

/-- A text is read only if all that follows its program is blank. -/
theorem Json.Spells.blanks_of_readAll {value other : Json} {blanks text rest : List Char}
    (spelled : Spells (.value (.term .stmt)) value text) (blank : Blanks blanks)
    (read : readAll (.term .stmt) (blanks ++ (text ++ rest)) = .ok other) : Blanks rest := by
  have readValue := spelled.ends_with_brace.2 _ blanks rest blank (Nat.lt_succ_self _)
  rw [readAll, readValue, ok_bind] at read
  dsimp only at read
  split at read
  · next skipped =>
    obtain ⟨more, moreBlank, same⟩ := exists_blanks skipped
    rw [same, List.append_nil]
    exact moreBlank
  · simp at read

/-- What is read after a text that is read is blank. -/
theorem Stmt.blanks_of_decode_append {source more : String} {program other : Stmt}
    (read : Stmt.decode source = .ok program)
    (readMore : Stmt.decode (source ++ more) = .ok other) : Blanks more.toList := by
  have spelled := Stmt.spells_of_decode read
  have spelledMore := Stmt.spells_of_decode readMore
  rw [String.toList_append] at spelledMore
  generalize source.toList = text at spelled spelledMore
  obtain ⟨blank, spelled, moreBlank⟩ := spelled
  have readWhole := readAll_of_spells spelledMore
  rw [List.append_assoc, List.append_assoc] at readWhole
  intro c inside
  exact spelled.blanks_of_readAll blank readWhole c (List.mem_append_right _ inside)

/-- Texts that are cut short or go on are refused. A text that is read ends with a brace, blanks
aside. It is refused when it stops before that brace, and when anything but blanks follows it. With
blanks on both sides it is read as before. -/
theorem cut_or_continued_refused {source : String} {program : Stmt}
    (read : Stmt.decode source = .ok program) :
    (∃ body blanks, source.toList = body ++ '\x7d' :: blanks ∧ Blanks blanks) ∧
    (∀ start rest : String, source = start ++ rest → '\x7d' ∈ rest.toList →
      ∃ failure, Stmt.decode start = .error failure) ∧
    (∀ more : String, ¬Blanks more.toList →
      ∃ failure, Stmt.decode (source ++ more) = .error failure) ∧
    ∀ before after : String, Blanks before.toList → Blanks after.toList →
      Stmt.decode (before ++ source ++ after) = .ok program := by
  have spelled := Stmt.spells_of_decode read
  refine ⟨?_, ?_, ?_, ?_⟩
  · generalize source.toList = text at spelled
    obtain @⟨blanks, _, moreBlanks, _, spelled, moreBlank⟩ := spelled
    obtain ⟨body, rfl⟩ := spelled.ends_with_brace.1
    exact ⟨blanks ++ body, moreBlanks, by simp, moreBlank⟩
  · rintro start rest rfl closing
    cases readStart : Stmt.decode start with
    | error failure => exact ⟨failure, rfl⟩
    | ok other =>
      have solid := Stmt.blanks_of_decode_append readStart read _ closing
      exact absurd solid (by decide)
  · intro more solid
    cases readMore : Stmt.decode (source ++ more) with
    | error failure => exact ⟨failure, rfl⟩
    | ok other => exact absurd (Stmt.blanks_of_decode_append read readMore) solid
  · intro before after blankBefore blankAfter
    apply Stmt.decode_of_spells
    rw [String.toList_append, String.toList_append]
    generalize source.toList = text at spelled
    obtain ⟨blank, spelled, moreBlank⟩ := spelled
    have surrounded :=
      SpellsWhole.mk (blankBefore.append blank) spelled (moreBlank.append blankAfter)
    simpa using surrounded

/-- A program with braces in its format, in a member that nobody asked for and in that member's key.
It is cut before its last brace and goes on with another brace or with a digit. -/
theorem cut_or_continued_refused_nested :
    let start := "\x7b\"Exp\":\x7b\"Printf\":\x7b\"\x7d\":[\x7b\x7d]," ++
      "\"format\":\"\x7d\",\"args\":[]\x7d\x7d"
    let source := start ++ "\x7d "
    let program := Stmt.expr (.printf "\x7d" [])
    Stmt.decode source = .ok program ∧
      (∃ failure, Stmt.decode start = .error failure) ∧
      (∃ failure, Stmt.decode (source ++ "\x7d") = .error failure) ∧
      (∃ failure, Stmt.decode (source ++ "\n0") = .error failure) ∧
      Stmt.decode ("\t" ++ source ++ "\r\n") = .ok program := by
  intro start source program
  have read : Stmt.decode source = .ok program := by decide +kernel
  obtain ⟨_, cut, continued, surrounded⟩ := cut_or_continued_refused read
  refine ⟨read, cut start "\x7d " rfl (by decide), continued "\x7d" ?_, continued "\n0" ?_,
    surrounded "\t" "\r\n" ?_ ?_⟩
  · intro blank
    exact absurd (blank '\x7d' (by decide)) (by decide)
  · intro blank
    exact absurd (blank '0' (by decide)) (by decide)
  · simp [Blanks, isBlank]
  · simp [Blanks, isBlank]

end SlotLang
