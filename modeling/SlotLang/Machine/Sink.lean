import SlotLang.Machine.Fault

/-!
# The output sink

Output is a list of texts, one for each print that went through. A sink may have room for a limited
number of bytes: a text that does not fit is refused whole. A sink may also fail after each write;
then the text is there and the print fails all the same.
-/

namespace SlotLang

/-- Where printed text goes. -/
structure Sink where
  /-- The texts written so far, oldest first. -/
  written : Array String
  /-- How many bytes more the sink takes, if there is a limit. -/
  room : Option Nat
  /-- Whether passing a text on fails after it is written. -/
  flushFails : Bool

namespace Sink

/-- A sink that takes everything. -/
def unlimited : Sink :=
  ⟨#[], none, false⟩

/-- A sink that takes a number of bytes. -/
def limited (bytes : Nat) : Sink :=
  ⟨#[], some bytes, false⟩

/-- Everything written, as one text. -/
def text (sink : Sink) : String :=
  String.join sink.written.toList

/-- What was written after the first `count` texts. -/
def textSince (sink : Sink) (count : Nat) : String :=
  String.join (sink.written.toList.drop count)

/-- Whether there is room for a text. -/
def fits (sink : Sink) (text : String) : Bool :=
  sink.room.all (text.utf8ByteSize ≤ ·)

/-- Write a text: the sink after it, and the fault if the write or what follows it fails. -/
def write (sink : Sink) (text : String) : Option Fault × Sink :=
  if sink.fits text then
    (if sink.flushFails then some (.output "flush failed") else none,
      { sink with
        written := sink.written.push text
        room := sink.room.map (· - text.utf8ByteSize) })
  else (some (.output "sink full"), sink)

end Sink

end SlotLang
