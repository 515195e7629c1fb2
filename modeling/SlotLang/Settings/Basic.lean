/-!
# Settings

What a host may set for a run: the limit on nested calls, the sizes new tables start with, and two
amounts of native stack that have no bearing on any answer.
-/

namespace SlotLang

/-- The settings of a run. -/
structure Settings where
  /-- How many calls may be active at once. -/
  maxCallDepth : Nat
  /-- How much native stack must be left before more is asked for. -/
  stackRedZone : Nat
  /-- How much native stack is asked for at a time. -/
  stackGrowSize : Nat
  /-- The number of buckets of a new global scope. -/
  globalCapacity : Nat
  /-- The number of buckets of a call's local scope. -/
  localCapacity : Nat
  /-- The number of buckets of an object without a parent. -/
  objectCapacity : Nat
  deriving DecidableEq

namespace Settings

/-- The settings of a host that sets nothing. -/
def default : Settings where
  maxCallDepth := 10000
  stackRedZone := 131072
  stackGrowSize := 4194304
  globalCapacity := 64
  localCapacity := 8
  objectCapacity := 11

/-- Where some settings are wanted, the defaults are. -/
instance : Inhabited Settings := ⟨default⟩

end Settings

end SlotLang
