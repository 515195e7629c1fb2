/-!
# Native stack

A computation that nests deeply needs native stack for every level. Running a part of it on a
thread of its own gives that part a stack of its own and has no other effect.
-/

namespace SlotLang

/-- Compute on a fresh native stack. -/
@[noinline] def onFreshStack {α : Type} (compute : Unit → α) : α :=
  (Task.spawn compute .dedicated).get

/-- Where a computation runs makes no difference to its result. -/
@[simp] theorem onFreshStack_eq {α : Type} (compute : Unit → α) :
    onFreshStack compute = compute () :=
  rfl

/-- How many levels share one native stack. -/
def levelsPerStack : Nat := 4096

/-- Compute level `level` of a nested computation: every so many levels on a fresh stack. -/
@[inline] def atLevel {α : Type} (level : Nat) (compute : Unit → α) : α :=
  if level % levelsPerStack = 0 then onFreshStack compute else compute ()

/-- So levels may be left aside in everything that is said of a computation. -/
@[simp] theorem atLevel_eq {α : Type} (level : Nat) (compute : Unit → α) :
    atLevel level compute = compute () := by
  simp [atLevel]

end SlotLang
