import Mathlib.Order.Monotone.Basic
import Mathlib.Data.List.TakeWhile
import Mathlib.Data.Prod.Lex
import SlotLang.Program.Source
import SlotLang.Proofs.Text.Utf8

/-!
# Places by line and column

Lines and columns are counted in the bytes of a text: a line ends after each line feed, and both
counts begin at one. A place found by its line and its column is always in the text, and it is the
place that was counted. What is special is only the end of a text: the place after a line feed that
ends the text is the start of one more line, which no line of the text is.

Where a line starts is settled on bytes first, and then found again in the way a text is cut into
lines.
-/

namespace SlotLang.Text

/-! ## Counting in bytes -/

/-- The line of a place: one more than the line feeds before it. A line feed belongs to the line
that it ends. -/
def lineAt (bytes : List UInt8) (place : Nat) : Nat :=
  (bytes.take place).count lineFeed + 1

/-- The column of a place: one more than the bytes from the start of its line to it. Columns count
bytes and not characters. -/
def columnAt (bytes : List UInt8) (place : Nat) : Nat :=
  ((bytes.take place).reverse.takeWhile (· ≠ lineFeed)).length + 1

/-- The place after the given number of line feeds, or the end if there are not so many. -/
def lineStart : Nat → List UInt8 → Nat
  | 0, _ => 0
  | _ + 1, [] => 0
  | before + 1, b :: bytes =>
    if b = lineFeed then lineStart before bytes + 1 else lineStart (before + 1) bytes + 1

/-- A line feed in front puts a place one line further down, and any other byte leaves it on its
line. -/
theorem lineAt_cons (b : UInt8) (bytes : List UInt8) (place : Nat) :
    lineAt (b :: bytes) (place + 1) =
      if b = lineFeed then lineAt bytes place + 1 else lineAt bytes place := by
  simp only [lineAt, List.take_succ_cons, List.count_cons, beq_iff_eq]
  split <;> rfl

/-- A byte in front lengthens the columns of the first line, unless it ends a line of its own. -/
theorem columnAt_cons (b : UInt8) (bytes : List UInt8) (place : Nat) :
    columnAt (b :: bytes) (place + 1) =
      if b ≠ lineFeed ∧ lineAt bytes place = 1 then columnAt bytes place + 1
      else columnAt bytes place := by
  simp only [columnAt, lineAt, List.take_succ_cons, List.reverse_cons, Nat.add_eq_right,
    List.count_eq_zero]
  by_cases feeds : lineFeed ∈ bytes.take place
  · have cut : ((bytes.take place).reverse.takeWhile (· ≠ lineFeed)).length ≠
        (bytes.take place).reverse.length := by
      intro whole
      have all := List.takeWhile_eq_self_iff.mp ((List.takeWhile_prefix _).eq_of_length whole)
      simpa using all lineFeed (List.mem_reverse.mpr feeds)
    rw [List.takeWhile_append, if_neg cut, if_neg (fun other => other.2 feeds)]
  · have all : ∀ c ∈ (bytes.take place).reverse, decide (c ≠ lineFeed) = true := by
      intro c inside
      exact decide_eq_true fun same => feeds (same ▸ List.mem_reverse.mp inside)
    rw [List.takeWhile_append_of_pos all, List.takeWhile_eq_self_iff.mpr all]
    by_cases feed : b = lineFeed <;> simp [feed, feeds]

/-- A line starts in the text or at its end. -/
theorem lineStart_le (before : Nat) (bytes : List UInt8) :
    lineStart before bytes ≤ bytes.length := by
  fun_induction lineStart before bytes <;> simp_all

/-- The next line does not start before this one. -/
theorem lineStart_le_succ (before : Nat) (bytes : List UInt8) :
    lineStart before bytes ≤ lineStart (before + 1) bytes := by
  fun_induction lineStart before bytes with
  | case1 => exact Nat.zero_le _
  | case2 => exact Nat.zero_le _
  | case3 before bytes inductionHypothesis =>
    rw [lineStart, if_pos rfl]
    exact Nat.succ_le_succ inductionHypothesis
  | case4 before b bytes other inductionHypothesis =>
    rw [lineStart, if_neg other]
    exact Nat.succ_le_succ inductionHypothesis

/-- So later lines start at later places, or all of them at the end. -/
theorem lineStart_mono {before before' : Nat} (bytes : List UInt8) (more : before ≤ before') :
    lineStart before bytes ≤ lineStart before' bytes :=
  monotone_nat_of_le_succ (fun n => lineStart_le_succ n bytes) more

/-- A line that there is not starts at the end of the text. -/
theorem lineStart_eq_length {before : Nat} {bytes : List UInt8}
    (past : bytes.count lineFeed < before) : lineStart before bytes = bytes.length := by
  fun_induction lineStart before bytes with
  | case1 => exact absurd past (Nat.not_lt_zero _)
  | case2 => rfl
  | case3 before bytes inductionHypothesis =>
    rw [List.count_cons_self] at past
    rw [inductionHypothesis (Nat.lt_of_succ_lt_succ past), List.length_cons]
  | case4 before b bytes other inductionHypothesis =>
    rw [List.count_cons_of_ne other] at past
    rw [inductionHypothesis past, List.length_cons]

/-- A line that exists starts at a place of its own, in its first column. So counting to the start
of a line gives the line back. -/
theorem counts_lineStart {before : Nat} {bytes : List UInt8}
    (present : before ≤ bytes.count lineFeed) :
    lineAt bytes (lineStart before bytes) = before + 1 ∧
      columnAt bytes (lineStart before bytes) = 1 := by
  fun_induction lineStart before bytes with
  | case1 => exact ⟨rfl, rfl⟩
  | case2 => exact absurd present (Nat.not_succ_le_zero _)
  | case3 before bytes inductionHypothesis =>
    rw [List.count_cons_self] at present
    obtain ⟨line, column⟩ := inductionHypothesis (Nat.le_of_succ_le_succ present)
    rw [lineAt_cons, columnAt_cons, line, column]
    simp
  | case4 before b bytes other inductionHypothesis =>
    rw [List.count_cons_of_ne other] at present
    obtain ⟨line, column⟩ := inductionHypothesis present
    rw [lineAt_cons, columnAt_cons, line, column]
    simp [other]

/-- The start of its line and the column give a place, and the place is not past the start of the
next line. -/
theorem lineStart_lineAt {bytes : List UInt8} {place : Nat} (inside : place ≤ bytes.length) :
    lineStart (lineAt bytes place - 1) bytes + (columnAt bytes place - 1) = place ∧
      place ≤ lineStart (lineAt bytes place) bytes := by
  induction bytes generalizing place with
  | nil =>
    obtain rfl := Nat.le_zero.mp inside
    exact ⟨rfl, Nat.zero_le _⟩
  | cons b bytes inductionHypothesis =>
    cases place with
    | zero => exact ⟨rfl, Nat.zero_le _⟩
    | succ place =>
      obtain ⟨start, stop⟩ := inductionHypothesis (Nat.le_of_succ_le_succ inside)
      obtain ⟨before, line⟩ : ∃ before, lineAt bytes place = before + 1 := ⟨_, rfl⟩
      obtain ⟨column, same⟩ : ∃ column, columnAt bytes place = column + 1 := ⟨_, rfl⟩
      rw [lineAt_cons, columnAt_cons]
      rw [line, same] at start
      rw [line] at stop
      by_cases feed : b = lineFeed
      · simp [feed, line, same, lineStart] at *
        omega
      · cases before with
        | zero =>
          simp [feed, line, same, lineStart] at *
          omega
        | succ before =>
          simp [feed, line, same, lineStart] at *
          omega

/-! ## The lines of a text -/

/-- A line feed is a line of its own in front of the others. Any other character goes to the first
line of the rest, or is the only line. -/
theorem lines_cons (c : Char) (text : List Char) :
    lines (c :: text) =
      if c = '\n' then [c] :: lines text
      else match lines text with
        | [] => [[c]]
        | line :: others => (c :: line) :: others :=
  rfl

/-- The lines of a text make up the text. -/
theorem flatten_lines (text : List Char) : (lines text).flatten = text := by
  induction text with
  | nil => rfl
  | cons c text inductionHypothesis =>
    rw [lines_cons]
    split
    · rw [List.flatten_cons, inductionHypothesis, List.singleton_append]
    · cases cut : lines text with
      | nil =>
        rw [cut] at inductionHypothesis
        rw [← inductionHypothesis]
        rfl
      | cons line others =>
        rw [cut, List.flatten_cons] at inductionHypothesis
        rw [List.flatten_cons, List.cons_append, inductionHypothesis]

/-- Bytes that are no line feeds only shift the starts of lines. -/
theorem lineStart_append {front : List UInt8} (absent : lineFeed ∉ front) (before : Nat)
    (bytes : List UInt8) :
    lineStart (before + 1) (front ++ bytes) = front.length + lineStart (before + 1) bytes := by
  induction front with
  | nil => simp
  | cons b front inductionHypothesis =>
    rw [List.mem_cons, not_or] at absent
    rw [List.cons_append, lineStart, if_neg (Ne.symm absent.1), inductionHypothesis absent.2,
      List.length_cons]
    omega

/-- A line starts where the lines before it end. This ties the lines of a text, which are
characters, to places, which are bytes. -/
theorem byteLength_take_lines (before : Nat) (text : List Char) :
    byteLength ((lines text).take before).flatten = lineStart before (bytes text) := by
  induction text generalizing before with
  | nil => cases before <;> rfl
  | cons c text inductionHypothesis =>
    cases before with
    | zero => simp [lineStart, byteLength]
    | succ before =>
      rw [lines_cons]
      split
      · next feed =>
        subst feed
        rw [List.take_succ_cons, List.flatten_cons, List.singleton_append, byteLength_cons,
          inductionHypothesis]
        exact Nat.add_comm _ _
      · next other =>
        rw [bytes_cons, lineStart_append (lineFeed_not_mem other), String.length_utf8EncodeChar,
          ← inductionHypothesis]
        cases lines text <;> simp [byteLength_cons]

end SlotLang.Text

namespace SlotLang.Span

open Text

/-! ## Places -/

/-- The place of a line and a column lies in the line: from its start on by the column, and not past
the start of the next line. -/
theorem atLineColumn_succ (source : List Char) (before column : Nat) :
    atLineColumn source (before + 1) column =
      point (min (lineStart before (bytes source) + (column - 1))
        (lineStart (before + 1) (bytes source))) := by
  have start := byteLength_take_lines before source
  have stop := byteLength_take_lines (before + 1) source
  have inside := lineStart_le (before + 1) (bytes source)
  rw [length_bytes] at inside
  simp only [atLineColumn]
  cases line : (lines source)[before]? with
  | none =>
    have all : (lines source).length ≤ before := List.getElem?_eq_none_iff.mp line
    rw [List.take_of_length_le all, flatten_lines] at start
    rw [List.take_of_length_le (Nat.le_succ_of_le all), flatten_lines] at stop
    rw [← start, ← stop, Nat.min_eq_right (Nat.le_add_right _ _)]
  | some text =>
    rw [List.take_add_one, line, List.flatten_append, byteLength_append, start] at stop
    simp only [Option.toList_some, List.flatten_singleton] at stop
    dsimp only
    rw [start]
    congr 1
    omega

/-- A line past the last has its place at the end of the text. -/
theorem atLineColumn_past {source : List Char} {line : Nat} (column : Nat)
    (outside : line = 0 ∨ lineAt (bytes source) (byteLength source) < line) :
    atLineColumn source line column = point (byteLength source) := by
  cases line with
  | zero => rfl
  | succ before =>
    rw [← length_bytes, lineAt, List.take_length] at outside
    have past : (bytes source).count lineFeed < before := by omega
    rw [atLineColumn_succ, lineStart_eq_length past,
      lineStart_eq_length (Nat.lt_succ_of_lt past), Nat.min_eq_right (Nat.le_add_right _ _),
      length_bytes]

/-- Every line and column have a place in the text, also where the text has no such line or
column. -/
theorem exists_place (source : List Char) (line column : Nat) :
    ∃ place ≤ byteLength source, atLineColumn source line column = point place := by
  cases line with
  | zero => exact ⟨byteLength source, Nat.le_refl _, rfl⟩
  | succ before =>
    have inside := lineStart_le (before + 1) (bytes source)
    rw [length_bytes] at inside
    exact ⟨_, Nat.le_trans (Nat.min_le_right _ _) inside, atLineColumn_succ source before column⟩

/-- The place of a counted line and column is the place that was counted. So counting loses nothing,
within the text and at its end. -/
theorem atLineColumn_counted {source : List Char} {place : Nat}
    (inside : place ≤ byteLength source) :
    atLineColumn source (lineAt (bytes source) place) (columnAt (bytes source) place) =
      point place := by
  rw [← length_bytes] at inside
  obtain ⟨start, stop⟩ := lineStart_lineAt inside
  obtain ⟨before, line⟩ : ∃ before, lineAt (bytes source) place = before + 1 := ⟨_, rfl⟩
  rw [line] at start stop ⊢
  rw [atLineColumn_succ]
  rw [Nat.add_sub_cancel] at start
  rw [start, Nat.min_eq_left stop]

/-- The place of a line that exists is in the line: not before its start, where the line is counted
and its first column, and not past a place of a later line. -/
theorem atLineColumn_within {source : List Char} {line : Nat} (column : Nat)
    (positive : 0 < line) (present : line ≤ lineAt (bytes source) (byteLength source)) :
    ∃ start, lineAt (bytes source) start = line ∧ columnAt (bytes source) start = 1 ∧
      start ≤ (atLineColumn source line column).start ∧
      ∀ next ≤ byteLength source, line < lineAt (bytes source) next →
        (atLineColumn source line column).start ≤ next := by
  obtain ⟨before, rfl⟩ := Nat.exists_eq_add_one.mpr positive
  rw [← length_bytes, lineAt, List.take_length] at present
  obtain ⟨line, first⟩ := counts_lineStart (Nat.le_of_succ_le_succ present)
  rw [atLineColumn_succ]
  refine ⟨_, line, first, ?_, ?_⟩
  · exact Nat.le_min.mpr ⟨Nat.le_add_right _ _, lineStart_le_succ before (bytes source)⟩
  · intro next inside later
    rw [← length_bytes] at inside
    calc
      min (lineStart before (bytes source) + (column - 1)) (lineStart (before + 1) (bytes source))
      _ ≤ lineStart (before + 1) (bytes source) := Nat.min_le_right _ _
      _ ≤ lineStart (lineAt (bytes source) next - 1) (bytes source) :=
          lineStart_mono _ (Nat.le_sub_one_of_lt later)
      _ ≤ next := by
          have counted := (lineStart_lineAt inside).1
          omega

/-- Later lines, and later columns of a line, have later places. A column past the end of a line has
the place behind its line feed, where the next line starts, and none behind that. -/
theorem atLineColumn_mono (source : List Char) {line line' column column' : Nat}
    (positive : 0 < line) (later : toLex (line, column) ≤ toLex (line', column')) :
    (atLineColumn source line column).start ≤ (atLineColumn source line' column').start := by
  obtain ⟨before, rfl⟩ := Nat.exists_eq_add_one.mpr positive
  rw [Prod.Lex.toLex_le_toLex] at later
  obtain ⟨before', rfl⟩ : ∃ before', line' = before' + 1 := ⟨line' - 1, by omega⟩
  rw [atLineColumn_succ, atLineColumn_succ]
  dsimp only [point]
  obtain earlier | ⟨same, ordered⟩ := later
  · have start : lineStart (before + 1) (bytes source) ≤ lineStart before' (bytes source) :=
      lineStart_mono _ (Nat.le_of_lt_succ earlier)
    have stop := lineStart_le_succ before' (bytes source)
    omega
  · obtain rfl : before = before' := Nat.succ.inj same
    have columns : column ≤ column' := ordered
    omega

end SlotLang.Span

namespace SlotLang

open Text

/-! ## Refusals -/

/-- A text that is no program is refused without a place, or with a place in it. -/
theorem Stmt.decode_error_place {source : String} {failure : HostError}
    (refused : Stmt.decode source = .error failure) :
    ∃ message span, failure = .decode message span ∧
      ∀ found ∈ span, ∃ place ≤ byteLength source.toList, found = .point place := by
  unfold Stmt.decode decodeTerm at refused
  cases read : Json.readTerm .stmt Stmt.ofJson? source.toList with
  | ok program =>
    rw [read] at refused
    cases refused
  | error why =>
    rw [read] at refused
    cases refused
    cases why with
    | unlocated cause rest => exact ⟨_, none, rfl, by simp⟩
    | located cause left =>
      refine ⟨_, some _, rfl, ?_⟩
      rintro found ⟨⟩
      exact Span.exists_place _ _ _

/-- Finding places by line and column undoes counting lines and columns, at every byte of every
text, its end included: the span found starts and stops at that byte. Whatever line and column are
asked for, the span starts and stops at one place, and the place is in the text. If the text has the
line then the place is in the line: at or after its start, where the line has its first column, and
not after any place of a later line. If the text does not have the line it is the end. Among lines
that are counted from one, places are ordered as lines and columns are. And so a refusal of a text
that is no program points nowhere, or to a place in the text. -/
theorem atLineColumn_inverts_counting (source : String) :
    let text := source.toList
    let stop := byteLength text
    (∀ place ≤ stop,
      Span.atLineColumn text (lineAt (bytes text) place) (columnAt (bytes text) place) =
        ⟨place, place⟩) ∧
    (∀ line column, ∃ place ≤ stop, Span.atLineColumn text line column = ⟨place, place⟩ ∧
      (line = 0 ∨ lineAt (bytes text) stop < line → place = stop) ∧
      (0 < line → line ≤ lineAt (bytes text) stop →
        ∃ start, lineAt (bytes text) start = line ∧ columnAt (bytes text) start = 1 ∧
          start ≤ place ∧ ∀ next ≤ stop, line < lineAt (bytes text) next → place ≤ next)) ∧
    (∀ line column line' column', 0 < line → toLex (line, column) ≤ toLex (line', column') →
      (Span.atLineColumn text line column).start ≤
        (Span.atLineColumn text line' column').start) ∧
    ∀ failure, Stmt.decode source = .error failure →
      ∃ message span, failure = .decode message span ∧
        ∀ found ∈ span, ∃ place ≤ stop, found = ⟨place, place⟩ := by
  intro text stop
  refine ⟨fun place => Span.atLineColumn_counted, ?_, ?_, fun failure => Stmt.decode_error_place⟩
  · intro line column
    obtain ⟨place, inside, found⟩ := Span.exists_place text line column
    refine ⟨place, inside, found, ?_, ?_⟩
    · intro outside
      rw [Span.atLineColumn_past column outside] at found
      exact congrArg Span.start found.symm
    · intro positive present
      have within := Span.atLineColumn_within column positive present
      rwa [found] at within
  · intro line column line' column' positive later
    exact Span.atLineColumn_mono text positive later

/-- A place in the middle of a character, a column past the end of a line, and the line after the
last line feed, in a text that is no program. -/
theorem atLineColumn_inverts_counting_last_line :
    let source := "\x7b\"é\":1\n\x7d\n"
    let text := source.toList
    Span.atLineColumn text 1 4 = ⟨3, 3⟩ ∧ Span.atLineColumn text 3 1 = ⟨10, 10⟩ ∧
      (∃ place, Span.atLineColumn text 1 99 = ⟨place, place⟩ ∧ place ≤ 8) ∧
      (Span.atLineColumn text 1 99).start ≤ (Span.atLineColumn text 2 0).start ∧
      ∃ message, Stmt.decode source = .error (.decode message (some ⟨4, 4⟩)) ∧
        ∃ place ≤ 10, (⟨4, 4⟩ : Span) = ⟨place, place⟩ := by
  intro source text
  obtain ⟨counted, found, ordered, refused⟩ := atLineColumn_inverts_counting source
  have length : byteLength text = 10 := by decide +kernel
  have inner : lineAt (bytes text) 3 = 1 ∧ columnAt (bytes text) 3 = 4 := by decide +kernel
  have next : lineAt (bytes text) 8 = 2 := by decide +kernel
  have last : lineAt (bytes text) 10 = 3 ∧ columnAt (bytes text) 10 = 1 := by decide +kernel
  refine ⟨?_, ?_, ?_, ?_, ?_⟩
  · have same := counted 3 (by rw [length]; decide)
    rwa [inner.1, inner.2] at same
  · have same := counted 10 (by rw [length])
    rwa [last.1, last.2] at same
  · obtain ⟨place, -, same, -, within⟩ := found 1 99
    obtain ⟨-, -, -, -, before⟩ := within (by decide) (by rw [length, last.1]; decide)
    exact ⟨place, same, before 8 (by rw [length]; decide) (by rw [next]; decide)⟩
  · exact ordered 1 99 2 0 (by decide) (by decide)
  · have failed : Stmt.decode source = .error (.decode
        "unknown variant `é`, expected one of `Var`, `Fn`, `Seq`, `Exp` at line 1 column 5"
        (some ⟨4, 4⟩)) := by decide +kernel
    obtain ⟨message, span, same, inside⟩ := refused _ failed
    cases same
    obtain ⟨place, within, point⟩ := inside _ rfl
    exact ⟨_, failed, place, length ▸ within, point⟩

end SlotLang
