import SlotLang.Machine.Heap

/-!
# Showing values and scopes

The text of a value depends on the heap. An array shows its elements. An object shows its slots in
the order of their names; an object inside it is not opened, so showing ends also where objects
refer to each other in a circle.
-/

namespace SlotLang

namespace Heap

/-- The text of one slot's binding. -/
def renderSlot (heap : Heap) : Binding → String
  | .var (.int n) => decimal n
  | .var .null => "null"
  | .var (.array id) => (heap.elements id).render
  | .var (.object _) => "<object>"
  | .routine routine => "<method/" ++ toString routine.arity ++ ">"

/-- The text of an object's slots. -/
def renderSlots (heap : Heap) (slots : Scope) : String :=
  let shown := slots.sortedNames.filterMap fun name =>
    (slots.get? name).map fun binding => name ++ ": " ++ heap.renderSlot binding
  "\x7b" ++ ", ".intercalate shown ++ "\x7d"

/-- The text of a value. -/
def render (heap : Heap) : Value → String
  | .int n => decimal n
  | .null => "null"
  | .array id => (heap.elements id).render
  | .object id => heap.renderSlots (heap.slots id)

/-- One line for a bound name. -/
def describeBinding (heap : Heap) (name : String) : Binding → String
  | .var value => "var " ++ name ++ " = " ++ heap.render value
  | .routine routine => "defn " ++ name ++ "(" ++ ", ".intercalate routine.params ++ ")"

/-- One line for every name of a scope, in the order of the names. -/
def describe (heap : Heap) (scope : Scope) : List String :=
  scope.sortedNames.filterMap fun name => (scope.get? name).map (heap.describeBinding name)

end Heap

end SlotLang
