import SlotLang.Json.Value
import SlotLang.Program.Basic

/-!
# Programs as JSON values

Every term has one JSON value. A constructor is a tag; its arguments are the value beside the tag,
as a record with named fields where there are several. Reading the value back gives the term again,
so two terms with one value are the same term.
-/

namespace SlotLang

/-! ## Terms to values -/

mutual

/-- The value of an expression. -/
def Expr.toJson : Expr → Json
  | .int n => .object [("Int", .int n)]
  | .null => .string "Null"
  | .printf format args =>
    .object [("Printf", .object [("format", .string format), ("args", .list (Expr.toJsons args))])]
  | .array length init =>
    .object [("Array", .object [("length", length.toJson), ("init", init.toJson)])]
  | .object parent members =>
    .object [("Object",
      .object [("parent", parent.toJson), ("slots", .list (Member.toJsons members))])]
  | .slot receiver name =>
    .object [("Slot", .object [("receiver", receiver.toJson), ("name", .string name)])]
  | .setSlot receiver name value =>
    .object [("SetSlot",
      .object [("receiver", receiver.toJson), ("name", .string name), ("value", value.toJson)])]
  | .callSlot receiver name args =>
    .object [("CallSlot",
      .object [("receiver", receiver.toJson), ("name", .string name),
        ("args", .list (Expr.toJsons args))])]
  | .call name args =>
    .object [("Call", .object [("name", .string name), ("args", .list (Expr.toJsons args))])]
  | .set name value =>
    .object [("Set", .object [("name", .string name), ("value", value.toJson)])]
  | .cond pred conseq alt =>
    .object [("If",
      .object [("pred", pred.toJson), ("conseq", conseq.toJson), ("alt", alt.toJson)])]
  | .loop pred body =>
    .object [("While", .object [("pred", pred.toJson), ("body", body.toJson)])]
  | .ref name => .object [("Ref", .string name)]

/-- The values of expressions. -/
def Expr.toJsons : List Expr → List Json
  | [] => []
  | e :: rest => e.toJson :: Expr.toJsons rest

/-- The value of a member. -/
def Member.toJson : Member → Json
  | .var name init => .object [("Var", .object [("name", .string name), ("init", init.toJson)])]
  | .method routine => .object [("Method", routine.toJson)]

/-- The values of members. -/
def Member.toJsons : List Member → List Json
  | [] => []
  | member :: rest => member.toJson :: Member.toJsons rest

/-- The value of a statement. -/
def Stmt.toJson : Stmt → Json
  | .var name init => .object [("Var", .object [("name", .string name), ("init", init.toJson)])]
  | .fn routine => .object [("Fn", routine.toJson)]
  | .seq first second => .object [("Seq", .list [first.toJson, second.toJson])]
  | .expr e => .object [("Exp", e.toJson)]

/-- The value of a routine. -/
def Routine.toJson : Routine → Json
  | ⟨name, params, body⟩ =>
    .object [("name", .string name), ("params", .list (params.map .string)),
      ("body", body.toJson)]

end

/-! ## Values to terms -/

/-- The strings of a list of strings. -/
def Json.strings? : List Json → Option (List String)
  | [] => some []
  | .string text :: rest => (Json.strings? rest).map (text :: ·)
  | _ :: _ => none

mutual

/-- The expression of a value. -/
def Expr.ofJson? : Json → Option Expr
  | .string "Null" => some .null
  | .object [("Int", .int n)] => some (.int n)
  | .object [("Printf", .object [("format", .string format), ("args", .list args)])] =>
    return .printf format (← Expr.ofJsons? args)
  | .object [("Array", .object [("length", length), ("init", init)])] =>
    return .array (← Expr.ofJson? length) (← Expr.ofJson? init)
  | .object [("Object", .object [("parent", parent), ("slots", .list members)])] =>
    return .object (← Expr.ofJson? parent) (← Member.ofJsons? members)
  | .object [("Slot", .object [("receiver", receiver), ("name", .string name)])] =>
    return .slot (← Expr.ofJson? receiver) name
  | .object [("SetSlot",
      .object [("receiver", receiver), ("name", .string name), ("value", value)])] =>
    return .setSlot (← Expr.ofJson? receiver) name (← Expr.ofJson? value)
  | .object [("CallSlot",
      .object [("receiver", receiver), ("name", .string name), ("args", .list args)])] =>
    return .callSlot (← Expr.ofJson? receiver) name (← Expr.ofJsons? args)
  | .object [("Call", .object [("name", .string name), ("args", .list args)])] =>
    return .call name (← Expr.ofJsons? args)
  | .object [("Set", .object [("name", .string name), ("value", value)])] =>
    return .set name (← Expr.ofJson? value)
  | .object [("If", .object [("pred", pred), ("conseq", conseq), ("alt", alt)])] =>
    return .cond (← Expr.ofJson? pred) (← Stmt.ofJson? conseq) (← Stmt.ofJson? alt)
  | .object [("While", .object [("pred", pred), ("body", body)])] =>
    return .loop (← Expr.ofJson? pred) (← Stmt.ofJson? body)
  | .object [("Ref", .string name)] => some (.ref name)
  | _ => none

/-- The expressions of values. -/
def Expr.ofJsons? : List Json → Option (List Expr)
  | [] => some []
  | value :: rest => return (← Expr.ofJson? value) :: (← Expr.ofJsons? rest)

/-- The member of a value. -/
def Member.ofJson? : Json → Option Member
  | .object [("Var", .object [("name", .string name), ("init", init)])] =>
    return .var name (← Expr.ofJson? init)
  | .object [("Method", routine)] => return .method (← Routine.ofJson? routine)
  | _ => none

/-- The members of values. -/
def Member.ofJsons? : List Json → Option (List Member)
  | [] => some []
  | value :: rest => return (← Member.ofJson? value) :: (← Member.ofJsons? rest)

/-- The statement of a value. -/
def Stmt.ofJson? : Json → Option Stmt
  | .object [("Var", .object [("name", .string name), ("init", init)])] =>
    return .var name (← Expr.ofJson? init)
  | .object [("Fn", routine)] => return .fn (← Routine.ofJson? routine)
  | .object [("Seq", .list [first, second])] =>
    return .seq (← Stmt.ofJson? first) (← Stmt.ofJson? second)
  | .object [("Exp", e)] => return .expr (← Expr.ofJson? e)
  | _ => none

/-- The routine of a value. -/
def Routine.ofJson? : Json → Option Routine
  | .object [("name", .string name), ("params", .list params), ("body", body)] =>
    return ⟨name, ← Json.strings? params, ← Stmt.ofJson? body⟩
  | _ => none

end

/-! ## There and back -/

/-- Texts are had back from the values that they are written as. -/
@[simp] theorem Json.strings?_map (texts : List String) :
    Json.strings? (texts.map .string) = some texts := by
  induction texts with
  | nil => rfl
  | cons text rest inductionHypothesis => simp [Json.strings?, inductionHypothesis]

mutual

/-- Every expression is had back from the value that it is written as. By recursion on the term,
with its lists, its members and its statements taken along; each step is a computation. -/
@[simp] theorem Expr.ofJson?_toJson : ∀ e : Expr, Expr.ofJson? e.toJson = some e
  | .int _ => by simp [Expr.toJson, Expr.ofJson?]
  | .null => by simp [Expr.toJson, Expr.ofJson?]
  | .printf _ args => by simp [Expr.toJson, Expr.ofJson?, Expr.ofJsons?_toJsons args]
  | .array length init => by
    simp [Expr.toJson, Expr.ofJson?, Expr.ofJson?_toJson length, Expr.ofJson?_toJson init]
  | .object parent members => by
    simp [Expr.toJson, Expr.ofJson?, Expr.ofJson?_toJson parent,
      Member.ofJsons?_toJsons members]
  | .slot receiver _ => by simp [Expr.toJson, Expr.ofJson?, Expr.ofJson?_toJson receiver]
  | .setSlot receiver _ value => by
    simp [Expr.toJson, Expr.ofJson?, Expr.ofJson?_toJson receiver, Expr.ofJson?_toJson value]
  | .callSlot receiver _ args => by
    simp [Expr.toJson, Expr.ofJson?, Expr.ofJson?_toJson receiver, Expr.ofJsons?_toJsons args]
  | .call _ args => by simp [Expr.toJson, Expr.ofJson?, Expr.ofJsons?_toJsons args]
  | .set _ value => by simp [Expr.toJson, Expr.ofJson?, Expr.ofJson?_toJson value]
  | .cond pred conseq alt => by
    simp [Expr.toJson, Expr.ofJson?, Expr.ofJson?_toJson pred, Stmt.ofJson?_toJson conseq,
      Stmt.ofJson?_toJson alt]
  | .loop pred body => by
    simp [Expr.toJson, Expr.ofJson?, Expr.ofJson?_toJson pred, Stmt.ofJson?_toJson body]
  | .ref _ => by simp [Expr.toJson, Expr.ofJson?]

/-- So is a list of expressions, and none of them is lost. -/
@[simp] theorem Expr.ofJsons?_toJsons :
    ∀ es : List Expr, Expr.ofJsons? (Expr.toJsons es) = some es
  | [] => by simp [Expr.toJsons, Expr.ofJsons?]
  | e :: rest => by
    simp [Expr.toJsons, Expr.ofJsons?, Expr.ofJson?_toJson e, Expr.ofJsons?_toJsons rest]

/-- So is a member of an object. -/
@[simp] theorem Member.ofJson?_toJson :
    ∀ member : Member, Member.ofJson? member.toJson = some member
  | .var _ init => by simp [Member.toJson, Member.ofJson?, Expr.ofJson?_toJson init]
  | .method routine => by simp [Member.toJson, Member.ofJson?, Routine.ofJson?_toJson routine]

/-- So are the members of an object, in their order. -/
@[simp] theorem Member.ofJsons?_toJsons :
    ∀ members : List Member, Member.ofJsons? (Member.toJsons members) = some members
  | [] => by simp [Member.toJsons, Member.ofJsons?]
  | member :: rest => by
    simp [Member.toJsons, Member.ofJsons?, Member.ofJson?_toJson member,
      Member.ofJsons?_toJsons rest]

/-- So is a statement. -/
@[simp] theorem Stmt.ofJson?_toJson : ∀ s : Stmt, Stmt.ofJson? s.toJson = some s
  | .var _ init => by simp [Stmt.toJson, Stmt.ofJson?, Expr.ofJson?_toJson init]
  | .fn routine => by simp [Stmt.toJson, Stmt.ofJson?, Routine.ofJson?_toJson routine]
  | .seq first second => by
    simp [Stmt.toJson, Stmt.ofJson?, Stmt.ofJson?_toJson first, Stmt.ofJson?_toJson second]
  | .expr e => by simp [Stmt.toJson, Stmt.ofJson?, Expr.ofJson?_toJson e]

/-- So is a routine, with its name and its parameters. -/
@[simp] theorem Routine.ofJson?_toJson :
    ∀ routine : Routine, Routine.ofJson? routine.toJson = some routine
  | ⟨_, _, body⟩ => by
    simp [Routine.toJson, Routine.ofJson?, Stmt.ofJson?_toJson body]

end

/-- Statements with one value are one statement. -/
theorem Stmt.toJson_injective {s t : Stmt} (same : s.toJson = t.toJson) : s = t := by
  have read := Stmt.ofJson?_toJson s
  rw [same, Stmt.ofJson?_toJson t] at read
  exact (Option.some.inj read).symm

/-- Statements can be compared, because the values that they are written as can. -/
instance : DecidableEq Stmt := fun s t =>
  decidable_of_iff (s.toJson = t.toJson) ⟨Stmt.toJson_injective, congrArg Stmt.toJson⟩

end SlotLang
