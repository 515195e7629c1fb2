import SlotLang.Text.Cluster
import SlotLang.Text.Span

/-!
# Typed lines

A line of input ends with a line feed, which may have a carriage return before it. A backspace in it
takes back the cluster before it, as it would on a keyboard, and takes back nothing at the start.

The length of every cluster is kept in one byte, so of a cluster of 256 bytes and more a backspace
takes back only what that byte tells.
-/

namespace SlotLang.Text

/-- The character that takes back what was typed before it. -/
def backspace : Char := '\x08'

/-- What has been typed of a line. -/
structure Typed where
  /-- The characters, the last one first. -/
  reversed : List Char
  /-- For each cluster how many bytes a backspace takes back, the last one first. -/
  sizes : List Nat
  deriving DecidableEq

namespace Typed

/-- Nothing yet. -/
def start : Typed :=
  ⟨[], []⟩

/-- Take characters of `n` bytes off the front of a text. -/
def dropBytes : Nat → List Char → List Char
  | _, [] => []
  | n, c :: rest => if c.utf8Size ≤ n then dropBytes (n - c.utf8Size) rest else c :: rest

/-- Take the last cluster back. -/
def takeBack (typed : Typed) : Typed :=
  match typed.sizes with
  | [] => typed
  | n :: sizes => ⟨dropBytes n typed.reversed, sizes⟩

/-- Type one cluster. -/
def add (typed : Typed) (cluster : List Char) : Typed :=
  if cluster = [backspace] then typed.takeBack
  else ⟨cluster.reverse ++ typed.reversed, byteLength cluster % 256 :: typed.sizes⟩

/-- The characters in their order. -/
def text (typed : Typed) : List Char :=
  typed.reversed.reverse

end Typed

/-- What is left of a line after its backspaces. -/
def settle (line : List Char) : List Char :=
  ((clusters line).foldl Typed.add .start).text

/-- Typing clusters none of which is a backspace puts them after what was typed before. -/
theorem Typed.text_foldl_add (others : List (List Char)) (typed : Typed)
    (plain : [backspace] ∉ others) :
    (others.foldl Typed.add typed).text = typed.text ++ others.flatten := by
  induction others generalizing typed with
  | nil => simp
  | cons cluster rest typedRest =>
    have notBackspace : cluster ≠ [backspace] := fun same => plain (by simp [same])
    have restPlain : [backspace] ∉ rest := fun among => plain (List.mem_cons_of_mem _ among)
    rw [List.foldl_cons, typedRest _ restPlain]
    simp [Typed.add, Typed.text, notBackspace]

/-- A line without a backspace stays as it is. -/
theorem settle_eq_self (line : List Char) (plain : backspace ∉ line) : settle line = line := by
  have noCluster : [backspace] ∉ clusters line := fun among =>
    plain (flatten_clusters line ▸ List.mem_flatten.mpr ⟨_, among, by simp⟩)
  rw [settle, Typed.text_foldl_add _ _ noCluster, flatten_clusters]
  rfl

/-- A line without the line feed that ends it and a carriage return before that. -/
def withoutLineEnd (line : List Char) : List Char :=
  match line.reverse with
  | '\n' :: '\r' :: rest => rest.reverse
  | '\n' :: rest => rest.reverse
  | _ => line

end SlotLang.Text
