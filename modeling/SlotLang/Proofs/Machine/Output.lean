import SlotLang.Proofs.Machine.Evolution

/-!
# Output

What a run can do to its sink. Only printing changes a sink, and it changes it only by adding a text
at the end, so output grows text by text and nothing that was written is taken back. A sink that
never fails is one without a limit that passes every text on, and it stays one.
-/

namespace SlotLang

/-! ## Output grows -/

/-- What was written stays written, in front of what is written later. Texts are compared one by
one, so a text is never joined with another. -/
def Sink.Grows (sink later : Sink) : Prop :=
  sink.written.toList <+: later.written.toList

/-- How many bytes were written. -/
def Sink.bytes (sink : Sink) : Nat :=
  sink.text.utf8ByteSize

namespace Sink

/-- A write adds its text at the end, or nothing if it is refused; what was written stays in
front. -/
theorem grows_write (sink : Sink) (text : String) : sink.Grows (sink.write text).2 := by
  unfold Grows write
  split
  · simp
  · exact List.prefix_refl _

/-- Output that nothing is added to has grown by nothing. -/
theorem Grows.refl (sink : Sink) : sink.Grows sink :=
  List.prefix_refl _

/-- Output that has grown twice has grown. -/
theorem Grows.trans {sink later latest : Sink} (first : sink.Grows later)
    (second : later.Grows latest) : sink.Grows latest :=
  List.IsPrefix.trans first second

/-- What was written before stands in front of what is written in the end. -/
theorem Grows.text {sink later : Sink} (grows : sink.Grows later) :
    ∃ more, later.text = sink.text ++ more := by
  obtain ⟨added, same⟩ := grows
  refine ⟨String.join added, ?_⟩
  rw [Sink.text, ← same, String.join_append]
  rfl

/-- So the number of bytes only goes up. -/
theorem Grows.bytes_le {sink later : Sink} (grows : sink.Grows later) :
    sink.bytes ≤ later.bytes := by
  obtain ⟨more, continued⟩ := grows.text
  rw [bytes, bytes, continued, String.utf8ByteSize_append]
  exact Nat.le_add_right _ _

/-- A text that is added counts with all its bytes. -/
theorem bytes_push (sink : Sink) (text : String) (room : Option Nat) :
    bytes { sink with written := sink.written.push text, room } =
      sink.bytes + text.utf8ByteSize := by
  simp [bytes, Sink.text, String.join_append]

end Sink

/-- Nothing that happens to a state takes back what was printed, failures included. -/
theorem State.Evolves.sink_grows {σ : Settings} {s t : State} (evolves : s.Evolves σ t) :
    s.sink.Grows t.sink :=
  evolves.sink_keeps (fun sink text grows => grows.trans (sink.grows_write text)) (.refl s.sink)

/-! ## Sinks that never fail -/

namespace Sink

/-- No text is refused, and every text is passed on. Whether the sink has written anything yet does
not matter. -/
def NeverFails (sink : Sink) : Prop :=
  ∀ text, (sink.write text).1 = none

/-- A text that is longer than a number. -/
theorem exists_longer (bytes : Nat) : ∃ text : String, bytes < text.utf8ByteSize := by
  induction bytes with
  | zero => exact ⟨"a", by decide⟩
  | succ bytes inductionHypothesis =>
    obtain ⟨text, longer⟩ := inductionHypothesis
    have oneMore : (text ++ "a").utf8ByteSize = text.utf8ByteSize + 1 :=
      String.utf8ByteSize_append
    exact ⟨text ++ "a", by omega⟩

/-- A sink that never fails has no limit, since some text is longer than the limit. Neither does
passing on fail. -/
theorem neverFails_iff {sink : Sink} :
    sink.NeverFails ↔ sink.room = none ∧ sink.flushFails = false := by
  constructor
  · intro neverFails
    have unlimited : sink.room = none := by
      cases limit : sink.room with
      | none => rfl
      | some bytes =>
        obtain ⟨text, longer⟩ := exists_longer bytes
        have accepted := neverFails text
        have refused : sink.fits text = false := by
          simpa [fits, limit] using longer
        simp [write, refused] at accepted
    have accepted := neverFails ""
    exact ⟨unlimited, by simpa [write, fits, unlimited] using accepted⟩
  · rintro ⟨unlimited, passes⟩ text
    simp [write, fits, unlimited, passes]

namespace NeverFails

variable {sink : Sink}

/-- A sink that never fails takes every text at its end. -/
theorem write_eq (neverFails : sink.NeverFails) (text : String) :
    sink.write text = (none, { sink with written := sink.written.push text }) := by
  obtain ⟨unlimited, passes⟩ := neverFails_iff.mp neverFails
  simp [write, fits, unlimited, passes]

/-- And it never fails afterwards: it has no room to use up. -/
theorem after_write (neverFails : sink.NeverFails) (text : String) :
    (sink.write text).2.NeverFails := by
  obtain ⟨unlimited, passes⟩ := neverFails_iff.mp neverFails
  rw [neverFails.write_eq, neverFails_iff]
  exact ⟨unlimited, passes⟩

end NeverFails

/-- The unlimited sink is such a sink. -/
theorem neverFails_unlimited : unlimited.NeverFails :=
  fun _ => rfl

end Sink

end SlotLang
