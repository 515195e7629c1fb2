import SlotLang.Proofs.Json.Soundness
import SlotLang.Proofs.Program.RoundTrip

/-!
# The texts of a program

Which texts are read as a program. A text may present a program in many ways. Members of a record
stand in any order, with others among them, or their values stand alone in a list; a tag that stands
alone may have `null` beside it; characters of strings, keys and tags are escaped or not; and blanks
stand between tokens. None of this matters to the reader, and nothing else is read.
-/

namespace SlotLang

open Json

/-! ## Values of terms -/

/-- Values that are read as texts are these texts and nothing else. -/
theorem Json.map_string_of_strings? {values : List Json} {texts : List String}
    (read : Json.strings? values = some texts) : values = texts.map .string := by
  induction values generalizing texts with
  | nil =>
    cases read
    rfl
  | cons value rest inductionHypothesis =>
    cases value with
    | string text =>
      obtain ⟨others, readOthers, rfl⟩ := Option.map_eq_some_iff.mp read
      rw [inductionHypothesis readOthers, List.map_cons]
    | int | list | object => cases read

mutual

/-- A value that is read as an expression is the one that the expression is written as. So there is
one value for each program, and only the text of a value leaves a choice. -/
theorem Expr.eq_toJson_of_ofJson? {value : Json} {e : Expr} (read : Expr.ofJson? value = some e) :
    value = e.toJson := by
  unfold Expr.ofJson? at read
  -- The cases are the tags, in the order of their table.
  split at read
  · cases read
    rw [Expr.toJson]
  · cases read
    rw [Expr.toJson]
  · obtain ⟨args, readArgs, same⟩ := Option.bind_eq_some_iff.mp read
    cases same
    rw [Expr.toJson, Expr.eq_toJsons_of_ofJsons? readArgs]
  · obtain ⟨length, readLength, others⟩ := Option.bind_eq_some_iff.mp read
    obtain ⟨init, readInit, same⟩ := Option.bind_eq_some_iff.mp others
    cases same
    rw [Expr.toJson, Expr.eq_toJson_of_ofJson? readLength, Expr.eq_toJson_of_ofJson? readInit]
  · obtain ⟨parent, readParent, others⟩ := Option.bind_eq_some_iff.mp read
    obtain ⟨members, readMembers, same⟩ := Option.bind_eq_some_iff.mp others
    cases same
    rw [Expr.toJson, Expr.eq_toJson_of_ofJson? readParent,
      Member.eq_toJsons_of_ofJsons? readMembers]
  · obtain ⟨receiver, readReceiver, same⟩ := Option.bind_eq_some_iff.mp read
    cases same
    rw [Expr.toJson, Expr.eq_toJson_of_ofJson? readReceiver]
  · obtain ⟨receiver, readReceiver, others⟩ := Option.bind_eq_some_iff.mp read
    obtain ⟨inner, readInner, same⟩ := Option.bind_eq_some_iff.mp others
    cases same
    rw [Expr.toJson, Expr.eq_toJson_of_ofJson? readReceiver, Expr.eq_toJson_of_ofJson? readInner]
  · obtain ⟨receiver, readReceiver, others⟩ := Option.bind_eq_some_iff.mp read
    obtain ⟨args, readArgs, same⟩ := Option.bind_eq_some_iff.mp others
    cases same
    rw [Expr.toJson, Expr.eq_toJson_of_ofJson? readReceiver, Expr.eq_toJsons_of_ofJsons? readArgs]
  · obtain ⟨args, readArgs, same⟩ := Option.bind_eq_some_iff.mp read
    cases same
    rw [Expr.toJson, Expr.eq_toJsons_of_ofJsons? readArgs]
  · obtain ⟨inner, readInner, same⟩ := Option.bind_eq_some_iff.mp read
    cases same
    rw [Expr.toJson, Expr.eq_toJson_of_ofJson? readInner]
  · obtain ⟨pred, readPred, others⟩ := Option.bind_eq_some_iff.mp read
    obtain ⟨conseq, readConseq, otherwise⟩ := Option.bind_eq_some_iff.mp others
    obtain ⟨alt, readAlt, same⟩ := Option.bind_eq_some_iff.mp otherwise
    cases same
    rw [Expr.toJson, Expr.eq_toJson_of_ofJson? readPred, Stmt.eq_toJson_of_ofJson? readConseq,
      Stmt.eq_toJson_of_ofJson? readAlt]
  · obtain ⟨pred, readPred, others⟩ := Option.bind_eq_some_iff.mp read
    obtain ⟨body, readBody, same⟩ := Option.bind_eq_some_iff.mp others
    cases same
    rw [Expr.toJson, Expr.eq_toJson_of_ofJson? readPred, Stmt.eq_toJson_of_ofJson? readBody]
  · cases read
    rw [Expr.toJson]
  · cases read
termination_by sizeOf value

/-- So it is for a list of expressions. -/
theorem Expr.eq_toJsons_of_ofJsons? {values : List Json} {es : List Expr}
    (read : Expr.ofJsons? values = some es) : values = Expr.toJsons es := by
  unfold Expr.ofJsons? at read
  split at read
  · cases read
    rw [Expr.toJsons]
  · obtain ⟨e, readHead, others⟩ := Option.bind_eq_some_iff.mp read
    obtain ⟨rest, readRest, same⟩ := Option.bind_eq_some_iff.mp others
    cases same
    rw [Expr.toJsons, ← Expr.eq_toJson_of_ofJson? readHead, ← Expr.eq_toJsons_of_ofJsons? readRest]
termination_by sizeOf values

/-- And for a member of an object, which has a tag of its own. -/
theorem Member.eq_toJson_of_ofJson? {value : Json} {member : Member}
    (read : Member.ofJson? value = some member) : value = member.toJson := by
  unfold Member.ofJson? at read
  split at read
  · obtain ⟨init, readInit, same⟩ := Option.bind_eq_some_iff.mp read
    cases same
    rw [Member.toJson, Expr.eq_toJson_of_ofJson? readInit]
  · obtain ⟨routine, readRoutine, same⟩ := Option.bind_eq_some_iff.mp read
    cases same
    rw [Member.toJson, Routine.eq_toJson_of_ofJson? readRoutine]
  · cases read
termination_by sizeOf value

/-- And for all members of an object. -/
theorem Member.eq_toJsons_of_ofJsons? {values : List Json} {members : List Member}
    (read : Member.ofJsons? values = some members) : values = Member.toJsons members := by
  unfold Member.ofJsons? at read
  split at read
  · cases read
    rw [Member.toJsons]
  · obtain ⟨member, readHead, others⟩ := Option.bind_eq_some_iff.mp read
    obtain ⟨rest, readRest, same⟩ := Option.bind_eq_some_iff.mp others
    cases same
    rw [Member.toJsons, ← Member.eq_toJson_of_ofJson? readHead,
      ← Member.eq_toJsons_of_ofJsons? readRest]
termination_by sizeOf values

/-- And for a statement. In each case the induction follows the reader, whose branches say what the
value looks like. -/
theorem Stmt.eq_toJson_of_ofJson? {value : Json} {s : Stmt} (read : Stmt.ofJson? value = some s) :
    value = s.toJson := by
  unfold Stmt.ofJson? at read
  split at read
  · obtain ⟨init, readInit, same⟩ := Option.bind_eq_some_iff.mp read
    cases same
    rw [Stmt.toJson, Expr.eq_toJson_of_ofJson? readInit]
  · obtain ⟨routine, readRoutine, same⟩ := Option.bind_eq_some_iff.mp read
    cases same
    rw [Stmt.toJson, Routine.eq_toJson_of_ofJson? readRoutine]
  · obtain ⟨first, readFirst, others⟩ := Option.bind_eq_some_iff.mp read
    obtain ⟨second, readSecond, same⟩ := Option.bind_eq_some_iff.mp others
    cases same
    rw [Stmt.toJson, Stmt.eq_toJson_of_ofJson? readFirst, Stmt.eq_toJson_of_ofJson? readSecond]
  · obtain ⟨e, readExpr, same⟩ := Option.bind_eq_some_iff.mp read
    cases same
    rw [Stmt.toJson, Expr.eq_toJson_of_ofJson? readExpr]
  · cases read
termination_by sizeOf value

/-- And for a routine, whose three fields stand in one order. -/
theorem Routine.eq_toJson_of_ofJson? {value : Json} {routine : Routine}
    (read : Routine.ofJson? value = some routine) : value = routine.toJson := by
  unfold Routine.ofJson? at read
  split at read
  · obtain ⟨params, readParams, others⟩ := Option.bind_eq_some_iff.mp read
    obtain ⟨body, readBody, same⟩ := Option.bind_eq_some_iff.mp others
    cases same
    rw [Routine.toJson, Json.map_string_of_strings? readParams,
      Stmt.eq_toJson_of_ofJson? readBody]
  · cases read
termination_by sizeOf value

end

/-! ## Programs -/

/-- A text that is read as a program spells the program. -/
theorem Stmt.spells_of_decode {program : Stmt} {source : String}
    (done : Stmt.decode source = .ok program) :
    SpellsWhole (.term .stmt) program.toJson source.toList := by
  have read : readTerm .stmt Stmt.ofJson? source.toList = .ok program := by
    unfold Stmt.decode decodeTerm at done
    generalize readTerm .stmt Stmt.ofJson? source.toList = answer at done ⊢
    cases answer with
    | ok found =>
      cases done
      rfl
    | error failure => cases done
  obtain ⟨value, readValue, found⟩ := bind_eq_ok.mp read
  split at found
  · next isTerm =>
    cases found
    rw [← Stmt.eq_toJson_of_ofJson? isTerm]
    exact readAll_eq_ok_iff.mp readValue
  · simp at found

/-- Exactly the spellings of a program are read as the program. On the one hand, no way to present
it matters: the order of members, members that nobody asked for, lists in place of records, `null`
beside a tag that stands alone, escapes in any string and blanks between any tokens, in whatever
combination and wherever in the text. On the other hand, no text is read that does not spell a
program by these rules. -/
theorem decode_ok_iff_spells {program : Stmt} {source : String} :
    Stmt.decode source = .ok program ↔
      SpellsWhole (.term .stmt) program.toJson source.toList :=
  ⟨Stmt.spells_of_decode, Stmt.decode_of_spells⟩

example :
    let named := "\x7b\"init\":\x7b\"Null\":null\x7d,\"note\":[-1e9],\"n\\u0061me\":\"\\/\"\x7d"
    let positional := "[\"y\", \"Null\"]"
    Stmt.decode ("\t\x7b\"Seq\":[\x7b\"Var\":" ++ named ++ "\x7d,\x7b\"Var\" :" ++ positional ++
        "\x7d]\x7d\n") =
      .ok (.seq (.var "/" .null) (.var "y" .null)) := by
  rfl

end SlotLang
