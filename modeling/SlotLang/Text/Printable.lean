import SlotLang.Text.Extender
import SlotLang.Text.Unseen

/-!
# Printable characters

A character is shown as it is if it has a mark of its own on a line. One that extends the character
before it would change how that one looks. The two halfwidth sound marks extend the letter before
them, but they take a place of their own like a letter and are shown.
-/

namespace SlotLang.Text

/-- Extending code points that take a place of their own. -/
def soundMarks : List Nat :=
  [0xff9e, 0xff9f]

/-- Whether the character shows a mark of its own. -/
def isPrintable (c : Char) : Bool :=
  !isUnseen c && (!isExtender c || soundMarks.contains c.toNat)

end SlotLang.Text
