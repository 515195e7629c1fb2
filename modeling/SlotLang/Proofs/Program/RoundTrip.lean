import SlotLang.Program.Source
import SlotLang.Proofs.Json.Reading
import SlotLang.Proofs.Json.Writing

/-!
# Reading a written program

The value of every term has the form that the tables give to terms of its kind, by induction on the
four kinds of term at once. So the text of a program spells it, and is read as the program again:
at any depth of nesting, and whatever characters its names and formats are made of.
-/

namespace SlotLang

open Json

/-! ## Terms -/

/-- A tag and what goes with it, found in the table of its kind. -/
theorem Json.hasForm_found {kind : Kind} {name tag : String} {variants : List Variant}
    {content : Content} {form : Form} {value : Json} (layout : kind.layout = .choice name variants)
    (found : variants.find? (·.tag == tag) = some ⟨tag, content⟩)
    (beside : content.form? = some form) (inner : HasForm form value) :
    HasForm (.value (.term kind)) (.object [(tag, value)]) :=
  hasForm_tagged layout (List.mem_of_find?_eq_some found) beside inner

/-- A tag with its fields, found in the table of its kind. -/
theorem Json.hasForm_fields {kind : Kind} {name tag : String} {variants : List Variant}
    {fields : List Field} {members : List (String × Json)}
    (layout : kind.layout = .choice name variants)
    (found : variants.find? (·.tag == tag) = some ⟨tag, .record fields⟩)
    (fills : Fills fields members) :
    HasForm (.value (.term kind)) (.object [(tag, .object members)]) := by
  have known := List.mem_of_find?_eq_some found
  exact hasForm_tagged layout known rfl (hasForm_record (nodup_fieldNames layout _ known) fills)

mutual

/-- The value that an expression is written as has the form that its kind asks for: a tag, alone or
as the key of its content. The recursion is on the term. -/
theorem Expr.hasForm_toJson : ∀ e : Expr, HasForm (.value (.term .expr)) e.toJson
  | .int n => by
    rw [Expr.toJson]
    exact hasForm_found rfl rfl rfl (hasForm_integer n)
  | .null => by
    rw [Expr.toJson]
    exact hasForm_tag rfl (by simp [exprVariants])
  | .printf format args => by
    rw [Expr.toJson]
    exact hasForm_fields rfl rfl (.cons (hasForm_text format)
      (.cons (hasForm_list (Expr.hasForm_toJsons args)) .nil))
  | .array length init => by
    rw [Expr.toJson]
    exact hasForm_fields rfl rfl (.cons (Expr.hasForm_toJson length)
      (.cons (Expr.hasForm_toJson init) .nil))
  | .object parent members => by
    rw [Expr.toJson]
    exact hasForm_fields rfl rfl (.cons (Expr.hasForm_toJson parent)
      (.cons (hasForm_list (Member.hasForm_toJsons members)) .nil))
  | .slot receiver name => by
    rw [Expr.toJson]
    exact hasForm_fields rfl rfl (.cons (Expr.hasForm_toJson receiver)
      (.cons (hasForm_text name) .nil))
  | .setSlot receiver name value => by
    rw [Expr.toJson]
    exact hasForm_fields rfl rfl (.cons (Expr.hasForm_toJson receiver)
      (.cons (hasForm_text name) (.cons (Expr.hasForm_toJson value) .nil)))
  | .callSlot receiver name args => by
    rw [Expr.toJson]
    exact hasForm_fields rfl rfl (.cons (Expr.hasForm_toJson receiver)
      (.cons (hasForm_text name) (.cons (hasForm_list (Expr.hasForm_toJsons args)) .nil)))
  | .call name args => by
    rw [Expr.toJson]
    exact hasForm_fields rfl rfl (.cons (hasForm_text name)
      (.cons (hasForm_list (Expr.hasForm_toJsons args)) .nil))
  | .set name value => by
    rw [Expr.toJson]
    exact hasForm_fields rfl rfl (.cons (hasForm_text name)
      (.cons (Expr.hasForm_toJson value) .nil))
  | .cond pred conseq alt => by
    rw [Expr.toJson]
    exact hasForm_fields rfl rfl (.cons (Expr.hasForm_toJson pred)
      (.cons (Stmt.hasForm_toJson conseq) (.cons (Stmt.hasForm_toJson alt) .nil)))
  | .loop pred body => by
    rw [Expr.toJson]
    exact hasForm_fields rfl rfl (.cons (Expr.hasForm_toJson pred)
      (.cons (Stmt.hasForm_toJson body) .nil))
  | .ref name => by
    rw [Expr.toJson]
    exact hasForm_found rfl rfl rfl (hasForm_text name)

/-- So have the values of a list of expressions. -/
theorem Expr.hasForm_toJsons :
    ∀ es : List Expr, ∀ value ∈ Expr.toJsons es, HasForm (.value (.term .expr)) value
  | [] => by simp [Expr.toJsons]
  | e :: rest => by
    rw [Expr.toJsons, List.forall_mem_cons]
    exact ⟨Expr.hasForm_toJson e, Expr.hasForm_toJsons rest⟩

/-- So has that of a member. -/
theorem Member.hasForm_toJson :
    ∀ member : Member, HasForm (.value (.term .member)) member.toJson
  | .var name init => by
    rw [Member.toJson]
    exact hasForm_fields rfl rfl (.cons (hasForm_text name) (.cons (Expr.hasForm_toJson init) .nil))
  | .method routine => by
    rw [Member.toJson]
    exact hasForm_found rfl rfl rfl (Routine.hasForm_toJson routine)

/-- So have those of the members of an object. -/
theorem Member.hasForm_toJsons :
    ∀ members : List Member, ∀ value ∈ Member.toJsons members,
      HasForm (.value (.term .member)) value
  | [] => by simp [Member.toJsons]
  | member :: rest => by
    rw [Member.toJsons, List.forall_mem_cons]
    exact ⟨Member.hasForm_toJson member, Member.hasForm_toJsons rest⟩

/-- So has that of a statement. -/
theorem Stmt.hasForm_toJson : ∀ s : Stmt, HasForm (.value (.term .stmt)) s.toJson
  | .var name init => by
    rw [Stmt.toJson]
    exact hasForm_fields rfl rfl (.cons (hasForm_text name) (.cons (Expr.hasForm_toJson init) .nil))
  | .fn routine => by
    rw [Stmt.toJson]
    exact hasForm_found rfl rfl rfl (Routine.hasForm_toJson routine)
  | .seq first second => by
    rw [Stmt.toJson]
    exact hasForm_found rfl rfl rfl (hasForm_row (.cons (Stmt.hasForm_toJson first)
      (.cons (Stmt.hasForm_toJson second) .nil)))
  | .expr e => by
    rw [Stmt.toJson]
    exact hasForm_found rfl rfl rfl (Expr.hasForm_toJson e)

/-- So has that of a routine, which is a record without a tag. -/
theorem Routine.hasForm_toJson :
    ∀ routine : Routine, HasForm (.value (.term .routine)) routine.toJson
  | ⟨name, params, body⟩ => by
    rw [Routine.toJson]
    have texts : ∀ value ∈ params.map Json.string, HasForm (.value .text) value := by
      intro value inside
      obtain ⟨param, _, rfl⟩ := List.mem_map.mp inside
      exact hasForm_text param
    exact hasForm_untagged rfl (hasForm_record (by decide) (.cons (hasForm_text name)
      (.cons (hasForm_list texts) (.cons (Stmt.hasForm_toJson body) .nil))))

end

/-! ## Programs -/

/-- The text of a program spells the program, in the layout that the writer gives it. -/
theorem Stmt.spells_encode (program : Stmt) :
    SpellsWhole (.term .stmt) program.toJson program.encode.toList := by
  have spelled := SpellsWhole.mk .nil (program.hasForm_toJson 0) .nil
  rw [List.nil_append, List.append_nil] at spelled
  rw [Stmt.encode, Json.pretty, String.toList_ofList]
  exact spelled

/-- A text that spells the value of a program is read as the program. So all spellings of a program
are read alike. -/
theorem Stmt.decode_of_spells {program : Stmt} {source : String}
    (spelled : SpellsWhole (.term .stmt) program.toJson source.toList) :
    Stmt.decode source = .ok program := by
  have read := readAll_of_spells spelled
  simp [Stmt.decode, decodeTerm, readTerm, read, Except.mapError]

/-- Every program is read back from what is written of it, whatever its nesting, its integers and
the characters of its names, parameters and formats. What is written spells the program's value by
the rules for all texts. -/
theorem decode_encode (program : Stmt) :
    SpellsWhole (.term .stmt) program.toJson program.encode.toList ∧
      Stmt.decode program.encode = .ok program :=
  ⟨program.spells_encode, Stmt.decode_of_spells program.spells_encode⟩

end SlotLang
