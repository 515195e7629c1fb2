import SlotLang.Proofs.Json.Numbers
import SlotLang.Proofs.Machine.Constructs

/-!
# What is printed

A format has a place for a value at each tilde. Whether there are enough arguments is decided by
counting tildes, and the text is made by walking over the format once more and taking a value at
each of them. The two never disagree, so every tilde is replaced: the text is the pieces of the
format between its tildes with the decimal texts of the values in between. It is written as a whole,
after all arguments were evaluated.
-/

namespace SlotLang

/-! ## The text -/

/-- The canonical decimal text of an integer: its digits without a needless zero in front, after a
minus sign if it is negative. -/
def IsDecimal (n : Int64) (text : List Char) : Prop :=
  ∃ digits, Json.WholeText digits ∧ Nat.ofDigitChars 10 digits 0 = n.toInt.natAbs ∧
    text = if n.toInt < 0 then '-' :: digits else digits

/-- The text of an integer consists of its decimal digits, with a minus sign in front of a negative
one. -/
theorem isDecimal_decimal (n : Int64) : IsDecimal n (decimal n).toList := by
  have value (magnitude : Nat) : Nat.ofDigitChars 10 (Nat.toDigits 10 magnitude) 0 = magnitude :=
    Nat.ofDigitChars_toDigits (by decide) (by decide)
  obtain ⟨magnitude, same, -, spelled⟩ | ⟨magnitude, same, positive, -, spelled⟩ :=
    Json.integerText_eq n
  · refine ⟨_, Json.wholeText_toDigits magnitude, ?_, ?_⟩
    · rw [value, same, Int.natAbs_natCast]
    · rw [if_neg (by omega)]
      exact spelled
  · refine ⟨_, Json.wholeText_toDigits magnitude, ?_, ?_⟩
    · rw [value, same, Int.natAbs_neg, Int.natAbs_natCast]
    · rw [if_pos (by omega)]
      exact spelled

/-- No digit and no sign is a tilde. -/
theorem IsDecimal.tilde_not_mem {n : Int64} {text : List Char} (decimal : IsDecimal n text) :
    '~' ∉ text := by
  obtain ⟨digits, whole, -, rfl⟩ := decimal
  have noDigit : '~' ∉ digits := by
    cases whole with
    | zero => decide
    | digits _ all =>
      intro member
      exact absurd (all '~' member) (by decide)
  split <;> simp [noDigit]

/-- Pieces with the decimal text of a value between each two. Values that are left over are not
shown. -/
def interleave : List (List Char) → List Int64 → List Char
  | [], _ => []
  | first :: rest, values =>
    first ++ (List.zipWith (fun n piece => (decimal n).toList ++ piece) values rest).flatten

/-- A character that is no mark is printed as it stands, whatever values there are. -/
theorem fill_cons_of_ne {c : Char} (plain : c ≠ '~') (format : List Char) (values : List Int64) :
    Eval.fill (c :: format) values = c :: Eval.fill format values := by
  rw [Eval.fill]
  · exact fun _ _ _ => plain
  · exact fun _ => plain

/-- A tilde cuts a format; any other character belongs to the first piece. -/
theorem splitOn_cons (c : Char) (format : List Char) :
    (c :: format).splitOn '~' =
      if c = '~' then [] :: format.splitOn '~' else (format.splitOn '~').modifyHead (c :: ·) := by
  rw [List.splitOn_eq_splitOnP, List.splitOnP_cons_eq_if_modifyHead, ← List.splitOn_eq_splitOnP]
  simp only [beq_iff_eq]

/-- Between its marks a format has one piece more than it has marks. Pieces may be empty, as between
two marks side by side. -/
theorem length_splitOn (format : List Char) :
    (format.splitOn '~').length = format.count '~' + 1 := by
  induction format with
  | nil => simp
  | cons c format inductionHypothesis =>
    rw [splitOn_cons]
    split
    · next tilde => rw [List.length_cons, inductionHypothesis, tilde, List.count_cons_self]
    · next plain => rw [List.length_modifyHead, inductionHypothesis, List.count_cons_of_ne plain]

/-- Filling a format puts the values between the pieces into which its tildes cut it, if there is a
value for every tilde. -/
theorem fill_eq_interleave {format : List Char} {values : List Int64}
    (enough : format.count '~' ≤ values.length) :
    Eval.fill format values = interleave (format.splitOn '~') values := by
  induction format generalizing values with
  | nil => simp [Eval.fill, interleave]
  | cons c format inductionHypothesis =>
    rw [splitOn_cons]
    cases pieces : format.splitOn '~' with
    | nil => exact absurd pieces (List.splitOn_ne_nil '~' format)
    | cons first rest =>
      by_cases tilde : c = '~'
      · subst tilde
        rw [List.count_cons_self] at enough
        cases values with
        | nil => simp at enough
        | cons n values =>
          have later := inductionHypothesis (Nat.le_of_succ_le_succ enough)
          rw [Eval.fill, later, pieces]
          simp [interleave]
      · rw [List.count_cons_of_ne tilde] at enough
        rw [fill_cons_of_ne tilde, inductionHypothesis enough, pieces]
        simp [interleave, tilde]

/-- Where there is a value for every tilde, no tilde is left. The values bring none, since they are
digits and signs. -/
theorem tilde_not_mem_fill {format : List Char} {values : List Int64}
    (enough : format.count '~' ≤ values.length) : '~' ∉ Eval.fill format values := by
  induction format generalizing values with
  | nil => simp [Eval.fill]
  | cons c format inductionHypothesis =>
    by_cases tilde : c = '~'
    · subst tilde
      rw [List.count_cons_self] at enough
      cases values with
      | nil => simp at enough
      | cons n values =>
        have later := inductionHypothesis (Nat.le_of_succ_le_succ enough)
        rw [Eval.fill, List.mem_append]
        exact not_or.mpr ⟨(isDecimal_decimal n).tilde_not_mem, later⟩
    · rw [List.count_cons_of_ne tilde] at enough
      rw [fill_cons_of_ne tilde, List.mem_cons]
      exact not_or.mpr ⟨Ne.symm tilde, inductionHypothesis enough⟩

/-! ## The write -/

/-- What a format prints for its values: its pieces between tildes, with the values in between. -/
def printed (format : String) (values : List Int64) : String :=
  String.ofList (interleave (format.toList.splitOn '~') values)

/-- How a print ends, by how the evaluation of its arguments ended. There is one write, of the whole
text. -/
inductive PrintEnds (format : String) : Outcome (List Int64) → Outcome Value → Prop where
  /-- An argument fails or is no integer. -/
  | argument (fault : Fault) (u : State) : PrintEnds format (.failed fault u) (.failed fault u)
  /-- The text is written, and the value is null. -/
  | written {values : List Int64} {u : State} {sink : Sink}
      (write : u.sink.write (printed format values) = (none, sink)) :
      PrintEnds format (.done values u) (.done .null { u with sink })
  /-- The sink fails. -/
  | refused {values : List Int64} {u : State} {fault : Fault} {sink : Sink}
      (write : u.sink.write (printed format values) = (some fault, sink)) :
      PrintEnds format (.done values u) (.failed fault { u with sink })

/-- A text that is accepted is added to the output as a whole. -/
theorem Sink.written_of_write {sink later : Sink} {text : String}
    (write : sink.write text = (none, later)) : later.written = sink.written.push text := by
  unfold Sink.write at write
  split at write
  · obtain ⟨-, rfl⟩ := Prod.mk.inj write
    rfl
  · cases write

/-! ## The arguments and the write after them -/

/-- The arguments of a format are expressions that are evaluated in order and each asked for an
integer. -/
theorem Eval.integers_eq (run : Evaluator) (what : String) (position : Nat) (args : List Expr) :
    integers run (fun _ => what) position args =
      Construct.each (·.expectInt what) args run := by
  induction args generalizing position with
  | nil => rfl
  | cons arg rest inductionHypothesis =>
    simp only [integers, Construct.each, inductionHypothesis]

namespace Construct

variable {σ : Settings} {format : String} {args : List Expr} {s u : State}
  {outcome : Outcome Value}

/-- Printing a filled format ends in null, or as the sink fails. It evaluates nothing, as its
arguments are values by then. -/
theorem settles_print {values : List Int64} (enough : Eval.places format ≤ values.length) :
    Settles σ (fun _ => Eval.print (String.ofList (Eval.fill format.toList values)) >>= fun _ =>
        pure .null) u outcome ↔
      PrintEnds format (.done values u) outcome := by
  rw [fill_eq_interleave enough]
  change Settles σ (fun _ => Eval.print (printed format values) >>= fun _ => pure .null)
    u outcome ↔ _
  cases write : u.sink.write (printed format values) with
  | mk answer sink =>
    cases answer with
    | none =>
      have accepted : Eval.print (printed format values) u = .done () { u with sink } := by
        rw [Eval.print, write]
      rw [settles_const_bind accepted, settles_pure]
      constructor
      · rintro rfl
        exact .written write
      · intro ends
        cases ends with
        | written again => cases write.symm.trans again; rfl
        | refused again => cases write.symm.trans again
    | some fault =>
      have refused : Eval.print (printed format values) u = .failed fault { u with sink } := by
        rw [Eval.print, write]
      rw [settles_const_bind_failed refused]
      constructor
      · rintro rfl
        exact .refused write
      · intro ends
        cases ends with
        | written again => cases write.symm.trans again
        | refused again => cases write.symm.trans again; rfl

/-- With a value for every place, a print ends as `PrintEnds` says, after its arguments. -/
theorem ends_printf_iff (enough : Eval.places format ≤ args.length) :
    Ends σ (.expr (.printf format args)) s outcome ↔
      ∃ evaluated, InOrder σ (·.expectInt "printf argument") args s evaluated ∧
        PrintEnds format evaluated outcome := by
  rw [ends_iff_settles (Eval.printf · format args) fun _ _ => rfl]
  simp only [Eval.printf, if_neg (Nat.not_lt.mpr enough), Eval.integers_eq]
  apply settles_after_each fun _ => steady_const _
  · intro values u sameLength
    exact settles_print (sameLength ▸ enough)
  · intro fault u
    constructor
    · rintro rfl
      exact .argument fault u
    · rintro ⟨⟩
      rfl

end Construct

/-- A print replaces every tilde. With fewer arguments than tildes it fails and evaluates none. With
enough, it evaluates all of them in order, and if each is an integer then it writes the text of the
format with the decimal texts of the values between its pieces, at once and after whatever the
arguments printed. Its value is null if the sink takes the text. If an argument fails or is no
integer, this is the end, and the print itself writes nothing. -/
theorem printf_interleaves (σ : Settings) (format : String) (args : List Expr) (s : State) :
    (args.length < Eval.places format →
      Ends σ (.expr (.printf format args)) s
        (.failed (.arityMismatch "printf" (Eval.places format) args.length) s)) ∧
    (Eval.places format ≤ args.length → ∀ outcome,
      Ends σ (.expr (.printf format args)) s outcome ↔
        ∃ evaluated, InOrder σ (·.expectInt "printf argument") args s evaluated ∧
          PrintEnds format evaluated outcome) ∧
    (format.toList.splitOn '~').length = Eval.places format + 1 ∧
    (∀ values, Eval.places format ≤ values.length → '~' ∉ (printed format values).toList) ∧
    (∀ n, IsDecimal n (decimal n).toList) ∧
    ∀ (sink later : Sink) (text : String), sink.write text = (none, later) →
      later.written = sink.written.push text := by
  refine ⟨?_, ?_, length_splitOn _, ?_, isDecimal_decimal, fun _ _ _ => Sink.written_of_write⟩
  · intro few
    rw [Construct.ends_iff_settles (Eval.printf · format args) fun _ _ => rfl]
    refine (Construct.settles_failed fun run => ?_).mpr rfl
    rw [Eval.printf, if_pos few]
    rfl
  · intro enough outcome
    exact Construct.ends_printf_iff enough
  · intro values enough
    rw [printed, ← fill_eq_interleave enough, String.toList_ofList]
    exact tilde_not_mem_fill enough

/-- Two tildes side by side, with no argument and with one more than is shown. -/
theorem printf_interleaves_surplus :
    let s := State.initial .default .unlimited
    let args : List Expr := [.int Int64.minValue, .int 0, .int 7]
    Ends .default (.expr (.printf "<~~>" [])) s (.failed (.arityMismatch "printf" 2 0) s) ∧
      ∃ v, Ends .default (.expr (.printf "<~~>" args)) s (.done .null v) ∧
        v.sink.written = #["<-92233720368547758080>"] := by
  intro s args
  refine ⟨(printf_interleaves .default "<~~>" [] s).1 (by decide), ?_⟩
  have evaluated : InOrder .default (·.expectInt "printf argument") args s
      (.done [Int64.minValue, 0, 7] s) :=
    .cons ⟨by simp, 1, rfl⟩ rfl (.cons ⟨by simp, 1, rfl⟩ rfl (.cons ⟨by simp, 1, rfl⟩ rfl (.nil s)))
  have text : printed "<~~>" [Int64.minValue, 0, 7] = "<-92233720368547758080>" := by decide +kernel
  obtain ⟨sink, write⟩ : ∃ sink,
      s.sink.write (printed "<~~>" [Int64.minValue, 0, 7]) = (none, sink) := ⟨_, rfl⟩
  refine ⟨_, ((printf_interleaves .default "<~~>" args s).2.1 (by decide) _).mpr
    ⟨_, evaluated, .written write⟩, ?_⟩
  rw [text] at write
  exact (printf_interleaves .default "<~~>" args s).2.2.2.2.2 _ _ _ write

end SlotLang
