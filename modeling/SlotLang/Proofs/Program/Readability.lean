import SlotLang.Proofs.Program.Association
import SlotLang.Proofs.Program.DumpReader

/-!
# Dumps are unambiguous

The dump of a program is a text in which sequences are flat and few parentheses stand. It can be
read back all the same, up to the way in which sequences nest, if the names in the program look like
names.
-/

namespace SlotLang

/-! ## The names in a term -/

mutual

/-- The names in an expression. -/
def Expr.names : Expr → List String
  | .int _ | .null => []
  | .printf _ args => Expr.namesOfAll args
  | .array length init => length.names ++ init.names
  | .object parent members => parent.names ++ Member.namesOfAll members
  | .slot e name => name :: e.names
  | .setSlot e name value => name :: (e.names ++ value.names)
  | .callSlot e name args => name :: (e.names ++ Expr.namesOfAll args)
  | .call name args => name :: Expr.namesOfAll args
  | .set name value => name :: value.names
  | .cond pred conseq alt => pred.names ++ (conseq.names ++ alt.names)
  | .loop pred body => pred.names ++ body.names
  | .ref name => [name]

/-- The names in expressions. -/
def Expr.namesOfAll : List Expr → List String
  | [] => []
  | e :: rest => e.names ++ Expr.namesOfAll rest

/-- The names in a member. -/
def Member.names : Member → List String
  | .var name init => name :: init.names
  | .method routine => routine.names

/-- The names in members. -/
def Member.namesOfAll : List Member → List String
  | [] => []
  | member :: rest => member.names ++ Member.namesOfAll rest

/-- The names in a statement: of variables, functions, parameters, slots and methods. -/
def Stmt.names : Stmt → List String
  | .var name init => name :: init.names
  | .fn routine => routine.names
  | .seq first second => first.names ++ second.names
  | .expr e => e.names

/-- The names in a routine. -/
def Routine.names : Routine → List String
  | ⟨name, params, body⟩ => name :: (params ++ body.names)

end

/-- Every name in the program looks like a name: it is a word, and not one of those that a dump uses
itself. Without this a dump could not be read back, since a name is written as it is. -/
def Stmt.WellNamed (program : Stmt) : Prop :=
  ∀ name ∈ program.names, Dump.IsName name

namespace Dump

/-! ## What follows a term -/

/-- What follows cannot be taken for more of a name, for arguments or for an assignment. A link may
follow: it belongs to the expression that the name is. -/
structure NameEnds (rest : List Char) : Prop where
  /-- No character of a word follows. -/
  word : WordEnds rest
  /-- No arguments follow. -/
  noArgs : after "(" rest = none
  /-- No value follows. -/
  noValue : after " = " rest = none

/-- What follows cannot be taken for more of an expression. This is asked for wherever an expression
is read on its own, with no parentheses around it to tell where it ends. -/
structure ExprEnds (rest : List Char) : Prop extends NameEnds rest where
  /-- No link follows either. -/
  noLink : after "." rest = none

/-- An expression may be the last thing in a text: where nothing follows, no word goes on and there
is no argument, no value and no link. -/
theorem exprEnds_nil : ExprEnds [] :=
  ⟨⟨by simp [WordEnds], rfl, rfl⟩, rfl⟩

/-- The signs before which an expression ends. The point of a link is not among them, as the
expression goes on with the link. -/
theorem exprEnds_sign {sign : String}
    (among : sign ∈ [")", ", ", "; ", " \x7d", " \x7b ", ") \x7b"]) (rest : List Char) :
    ExprEnds (sign.toList ++ rest) := by
  simp only [List.mem_cons, List.not_mem_nil, or_false] at among
  rcases among with rfl | rfl | rfl | rfl | rfl | rfl
  all_goals exact ⟨⟨by rintro c ⟨⟩; rfl, rfl, rfl⟩, rfl⟩

/-- Before a link a name has ended. An expression has not: the link may be one more of its own, and
so this is all that can be said there. -/
theorem nameEnds_link (rest : List Char) : NameEnds (".".toList ++ rest) :=
  ⟨by rintro c ⟨⟩; rfl, rfl, rfl⟩

/-- A word ends at the parenthesis that opens arguments, although a name does not: with arguments
after it, the name is that of a callee. -/
theorem wordEnds_args (rest : List Char) : WordEnds ("(".toList ++ rest) := by
  rintro c ⟨⟩
  rfl

/-- A word ends at the sign of an assignment. What is read from there on depends on the sign, so
only the end of the word is stated and not that of a name. -/
theorem wordEnds_value (rest : List Char) : WordEnds (" = ".toList ++ rest) := by
  rintro c ⟨⟩
  rfl

/-! ## Beginnings and links -/

-- The dump of each construct, and what it is when nested to the right, are given by its parts.
attribute [local simp] Expr.dump Expr.dumpAll Expr.dumpMore Member.dump Member.dumpAll
  Member.dumpMore Stmt.dump Routine.dump Expr.rightNested Expr.rightNestedAll Member.rightNested
  Member.rightNestedAll Routine.rightNested

/-- What is read of an expression. On its own it is read up to what ends it. As a receiver without
parentheses it is read together with the links that follow. -/
structure Readable (e : Expr) : Prop where
  /-- It is read up to what ends an expression. -/
  alone : ∀ {rest}, ExprEnds rest →
    Reads (fun bound => readExpr bound (e.dump.toList ++ rest)) (e.rightNested, rest)
  /-- If it needs no parentheses, it is read with the links that follow. -/
  linked : e.needsParens = false → ∀ {rest result}, NameEnds rest →
    Reads (fun bound => readLinks bound e.rightNested rest) result →
    Reads (fun bound => readExpr bound (e.dump.toList ++ rest)) result

/-- Where no link follows, the expression is complete. This is where every reading of links ends. -/
theorem reads_noLinks (e : Expr) {rest : List Char} (ends : ExprEnds rest) :
    Reads (fun bound => readLinks bound e rest) (e, rest) := by
  apply Reads.succ
  apply Reads.of_eq
  intro bound
  simp [readLinks, ends.noLink]

/-- What is read with the links that follow is read alone where none follow. So for an expression
that needs no parentheses only the reading with links is to be shown. -/
theorem Readable.of_linked {e : Expr} (linked : ∀ {rest result}, NameEnds rest →
    Reads (fun bound => readLinks bound e.rightNested rest) result →
    Reads (fun bound => readExpr bound (e.dump.toList ++ rest)) result) : Readable e where
  alone := fun ends => linked ends.toNameEnds (reads_noLinks _ ends)
  linked := fun _ => linked

/-- What needs parentheses as a receiver is read alone only. Without them it never stands in front
of a link. -/
theorem Readable.of_alone {e : Expr} (parens : e.needsParens = true)
    (alone : ∀ {rest}, ExprEnds rest →
      Reads (fun bound => readExpr bound (e.dump.toList ++ rest)) (e.rightNested, rest)) :
    Readable e where
  alone := alone
  linked := fun simple => absurd (parens.symm.trans simple) (by decide)

/-- An expression is its beginning and its links. The reader takes the beginning, and then the links
from where the beginning ended. -/
theorem reads_expr {text rest : List Char} {e : Expr} {result : Expr × List Char}
    (begins : Reads (fun bound => readBeginning bound text) (e, rest))
    (links : Reads (fun bound => readLinks bound e rest) result) :
    Reads (fun bound => readExpr bound text) result := by
  apply Reads.succ
  simp only [readExpr]
  exact begins.bind links

/-- What begins with a word begins neither with a parenthesis nor as a number, so what is read is
decided by the whole word and by what follows it. -/
theorem reads_word {word : String} (isWord : IsWord word) {rest : List Char} (ends : WordEnds rest)
    {result : Expr × List Char} (reads : Reads (fun bound => readWorded bound word rest) result) :
    Reads (fun bound => readBeginning bound (word.toList ++ rest)) result := by
  have noParens : after "(" (word.toList ++ rest) = none := by
    obtain ⟨c, others, spelled, named, _⟩ := isWord.head
    have noParen : c ≠ '(' := by
      rintro rfl
      exact absurd named (by decide)
    simp [spelled, after, List.dropPrefix?, noParen]
  apply Reads.succ
  simp only [readBeginning, noParens, startsNumber_word isWord, word_append isWord ends]
  exact reads

/-- What begins with a name that is not reserved is a variable, a call or an assignment. The words
that begin another construct are reserved, so none of these is read instead. -/
theorem reads_name {name : String} (isName : IsName name) {rest : List Char} (ends : WordEnds rest)
    {result : Expr × List Char} (reads : Reads (fun bound => readNamed bound name rest) result) :
    Reads (fun bound => readBeginning bound (name.toList ++ rest)) result := by
  apply reads_word isName.1 ends
  have free := isName.2
  simp only [reserved, List.mem_cons, List.not_mem_nil, or_false, not_or] at free
  apply Reads.succ
  simp only [readWorded, free, isName, if_true, if_false]
  exact reads

/-! ## Expressions that may be receivers -/

/-- The value that is null is a word of its own, and this word is reserved, so it is not read as a
variable. -/
theorem readable_null : Readable .null := by
  apply Readable.of_linked
  intro rest result ends links
  rw [Expr.rightNested] at links
  have isWord : IsWord "null" := by decide
  refine reads_expr (reads_word isWord ends.word ?_) links
  apply Reads.succ
  apply Reads.of_eq
  intro bound
  simp [readWorded]

/-- A variable is its name. It takes neither arguments nor a value, because what follows an
expression begins with none of their signs. -/
theorem readable_ref {name : String} (isName : IsName name) : Readable (.ref name) := by
  apply Readable.of_linked
  intro rest result ends links
  rw [Expr.rightNested] at links
  refine reads_expr (reads_name isName ends.word ?_) links
  apply Reads.succ
  apply Reads.of_eq
  intro bound
  simp [readNamed, ends.noArgs, ends.noValue]

/-- An integer is read up to the end of its digits. Its first character, a digit or the minus sign,
tells it from a parenthesis and from a word. -/
theorem readable_int (n : Int64) : Readable (.int n) := by
  apply Readable.of_linked
  intro rest result ends links
  rw [Expr.rightNested] at links
  rw [Expr.dump]
  refine reads_expr ?_ links
  have read := number_append n ends.word
  obtain ⟨c, others, spelled, numeric⟩ := Json.integerText_head n
  rw [Json.isDigit_eq] at numeric
  rw [Json.integerText] at spelled
  rw [spelled, List.cons_append] at read ⊢
  have noParens : after "(" (c :: (others ++ rest)) = none := by
    have noParen : c ≠ '(' := by
      rintro rfl
      exact absurd numeric (by decide)
    simp [after, List.dropPrefix?, noParen]
  apply Reads.succ
  apply Reads.of_eq
  intro bound
  simp [readBeginning, noParens, startsNumber, numeric, read]

/-! ## Arguments -/

/-- An expression ends before further arguments and before the closing parenthesis. One of the two
comes next, whatever arguments there are. -/
theorem exprEnds_args (args : List Expr) (rest : List Char) :
    ExprEnds ((Expr.dumpMore args).toList ++ (")".toList ++ rest)) := by
  cases args with
  | nil =>
    rw [Expr.dumpMore]
    exact exprEnds_sign (by decide) rest
  | cons arg args =>
    rw [Expr.dumpMore]
    simp only [String.toList_append, List.append_assoc]
    exact exprEnds_sign (by decide) _

/-- After the first argument each one has a comma before it, and the closing parenthesis ends them.
By induction over the arguments, each of which is read alone. -/
theorem reads_moreArgs {args : List Expr} (each : ∀ arg ∈ args, Readable arg) (rest : List Char) :
    Reads (fun bound => readArgs bound ", " ((Expr.dumpMore args).toList ++ (")".toList ++ rest)))
      (Expr.rightNestedAll args, rest) := by
  induction args with
  | nil =>
    apply Reads.succ
    apply Reads.of_eq
    intro bound
    simp only [Expr.dumpMore, Expr.rightNestedAll, String.toList_empty, List.nil_append, readArgs,
      after_append]
  | cons arg args inductionHypothesis =>
    obtain ⟨first, others⟩ := List.forall_mem_cons.mp each
    rw [Expr.dumpMore, Expr.rightNestedAll]
    simp only [String.toList_append, List.append_assoc]
    apply Reads.succ
    simp only [readArgs]
    exact .sign (.bind (first.alone (exprEnds_args args rest))
      (.bind (inductionHypothesis others) (.of_eq fun _ => rfl)))

/-- These words begin no expression, nor does the absence of a word. A variable cannot have one of
them as its name, because they are reserved. -/
theorem readWorded_eq_none {found : String} (among : found ∈ ["", "var", "defn"]) (bound : Nat)
    (text : List Char) : readWorded bound found text = none := by
  have noName : ¬IsName found := by
    revert found
    decide
  simp only [List.mem_cons, List.not_mem_nil, or_false] at among
  cases bound with
  | zero => rw [readWorded]
  | succ bound => rcases among with rfl | rfl | rfl <;> simp [readWorded, noName]

/-- A text that begins with one of these signs begins with no expression. By this the reader knows
where a list of arguments ends and which kind of member comes. -/
theorem readExpr_eq_none {sign : String} (among : sign ∈ [")", "var ", "defn "])
    (rest : List Char) (bound : Nat) : readExpr bound (sign.toList ++ rest) = none := by
  have begun : after "(" (sign.toList ++ rest) = none ∧
      startsNumber (sign.toList ++ rest) = false ∧
      (word (sign.toList ++ rest)).1 ∈ ["", "var", "defn"] := by
    simp only [List.mem_cons, List.not_mem_nil, or_false] at among ⊢
    rcases among with rfl | rfl | rfl
    · exact ⟨rfl, rfl, .inl rfl⟩
    · exact ⟨rfl, rfl, .inr (.inl rfl)⟩
    · exact ⟨rfl, rfl, .inr (.inr rfl)⟩
  obtain ⟨noParens, noNumber, noName⟩ := begun
  cases bound with
  | zero => rw [readExpr]
  | succ bound =>
    cases bound with
    | zero => simp [readExpr, readBeginning]
    | succ bound =>
      simp [readExpr, readBeginning, noParens, noNumber, readWorded_eq_none noName]

/-- The dump of an expression does not begin with one of these signs: the reader would find no
expression behind the sign, yet it finds one. -/
theorem Readable.after_eq_none {e : Expr} (readable : Readable e) {s : String}
    (among : s ∈ [")", "var ", "defn "]) {rest : List Char} (ends : ExprEnds rest) :
    after s (e.dump.toList ++ rest) = none := by
  cases found : after s (e.dump.toList ++ rest) with
  | none => rfl
  | some text =>
    obtain ⟨enough, reads⟩ := readable.alone ends
    have read := reads enough (Nat.le_refl _)
    have refused := readExpr_eq_none among text enough
    rw [← eq_append_of_after found] at refused
    exact absurd (read.symm.trans refused) (by simp)

/-- Arguments between their parentheses. The first has no comma before it, so the reader has to see
that it is not the closing parenthesis that comes, which an expression never begins with. -/
theorem reads_args {args : List Expr} (each : ∀ arg ∈ args, Readable arg) (rest : List Char) :
    Reads (fun bound => readArgs bound "" ((Expr.dumpAll args).toList ++ (")".toList ++ rest)))
      (Expr.rightNestedAll args, rest) := by
  cases args with
  | nil =>
    apply Reads.succ
    apply Reads.of_eq
    intro bound
    simp only [Expr.dumpAll, Expr.rightNestedAll, String.toList_empty, List.nil_append, readArgs,
      after_append]
  | cons arg args =>
    obtain ⟨first, others⟩ := List.forall_mem_cons.mp each
    have ends := exprEnds_args args rest
    rw [Expr.dumpAll, Expr.rightNestedAll]
    simp only [String.toList_append, List.append_assoc]
    apply Reads.succ
    have noClose := first.after_eq_none (s := ")") (by decide) ends
    simp only [readArgs, noClose]
    refine .bind (.of_eq fun _ => after_empty _) ?_
    exact .bind (first.alone ends) (.bind (reads_moreArgs others rest) (.of_eq fun _ => rfl))

/-- A text between quotation marks is read back from its escapes, up to the mark that ends it; a
mark inside it is escaped and does not. -/
theorem reads_unquote (chars rest : List Char) :
    Reads (fun bound => unquote bound (chars.flatMap Text.escape ++ '"' :: rest)) (chars, rest) :=
  ⟨chars.length + 1, fun _ enough => unquote_append chars rest enough⟩

/-- A format with its arguments. The format is quoted, so it may hold commas and parentheses, and
each argument has a comma before it, the first one too. -/
theorem readable_printf (format : String) {args : List Expr} (each : ∀ arg ∈ args, Readable arg) :
    Readable (.printf format args) := by
  apply Readable.of_linked
  intro rest result ends links
  have text : (Expr.printf format args).dump.toList ++ rest = "printf".toList ++
      ("(\"".toList ++ (format.toList.flatMap Text.escape ++
        '"' :: ((Expr.dumpMore args).toList ++ (")".toList ++ rest)))) := by
    simp [Text.quoted]
  rw [Expr.rightNested] at links
  rw [text]
  refine reads_expr (reads_word (by decide) (by rintro c ⟨⟩; rfl) ?_) links
  apply Reads.succ
  simp only [readWorded]
  refine .sign (.bind (reads_unquote format.toList _) (.bind (reads_moreArgs each rest) ?_))
  exact .of_eq fun _ => by simp

/-- An array is its length and its initial value between parentheses, behind a reserved word; both
are read alone, up to the comma and up to the parenthesis. -/
theorem readable_array {length init : Expr} (lengths : Readable length) (inits : Readable init) :
    Readable (.array length init) := by
  apply Readable.of_linked
  intro rest result ends links
  have text : (Expr.array length init).dump.toList ++ rest = "array".toList ++ ("(".toList ++
      (length.dump.toList ++ (", ".toList ++ (init.dump.toList ++ (")".toList ++ rest))))) := by
    simp
  rw [Expr.rightNested] at links
  rw [text]
  refine reads_expr (reads_word (by decide) (wordEnds_args _) ?_) links
  apply Reads.succ
  simp only [readWorded]
  exact .sign (.bind (lengths.alone (exprEnds_sign (by decide) _)) (.sign
    (.bind (inits.alone (exprEnds_sign (by decide) _)) (.sign (.of_eq fun _ => rfl)))))

/-- A call is a name with arguments. The parenthesis comes directly after the name, which tells a
call from a variable in parentheses. -/
theorem readable_call {name : String} (isName : IsName name) {args : List Expr}
    (each : ∀ arg ∈ args, Readable arg) : Readable (.call name args) := by
  apply Readable.of_linked
  intro rest result ends links
  rw [Expr.rightNested] at links
  rw [Expr.dump]
  simp only [String.toList_append, List.append_assoc]
  refine reads_expr (reads_name isName (wordEnds_args _) ?_) links
  apply Reads.succ
  simp only [readNamed, after_append]
  exact .bind (reads_args each rest) (.of_eq fun _ => rfl)

/-! ## Links -/

/-- A receiver is read, whether it stands in parentheses or not, and then the links. Each of the two
readings of an expression serves one of the cases. -/
theorem reads_receiver {e : Expr} (readable : Readable e) {rest : List Char}
    {result : Expr × List Char}
    (links : Reads (fun bound => readLinks bound e.rightNested (".".toList ++ rest)) result) :
    Reads (fun bound => readExpr bound ((e.asReceiver e.dump).toList ++ (".".toList ++ rest)))
      result := by
  by_cases parens : e.needsParens
  · rw [Expr.asReceiver, if_pos parens]
    simp only [String.toList_append, List.append_assoc]
    refine reads_expr ?_ links
    apply Reads.succ
    simp only [readBeginning, after_append]
    exact .bind (readable.alone (exprEnds_sign (by decide) _)) (.sign (.of_eq fun _ => rfl))
  · rw [Expr.asReceiver, if_neg parens]
    exact readable.linked (Bool.eq_false_of_not_eq_true parens) (nameEnds_link rest) links

/-- Access to a slot is a link. Links are read one after the other from the receiver on, so this one
is read with the links that follow it. -/
theorem readable_slot {e : Expr} (readable : Readable e) {name : String} (isName : IsName name) :
    Readable (.slot e name) := by
  apply Readable.of_linked
  intro rest result ends links
  rw [Expr.rightNested] at links
  rw [Expr.dump]
  simp only [String.toList_append, List.append_assoc]
  apply reads_receiver readable
  apply Reads.succ
  simp only [readLinks, after_append, word_append isName.1 ends.word, ends.noArgs, ends.noValue]
  exact links

/-- A call of a method is a link with arguments, and further links may follow it as they may follow
access to a slot. -/
theorem readable_callSlot {e : Expr} (readable : Readable e) {name : String}
    (isName : IsName name) {args : List Expr} (each : ∀ arg ∈ args, Readable arg) :
    Readable (.callSlot e name args) := by
  apply Readable.of_linked
  intro rest result ends links
  rw [Expr.rightNested] at links
  rw [Expr.dump]
  simp only [String.toList_append, List.append_assoc]
  apply reads_receiver readable
  apply Reads.succ
  simp only [readLinks, after_append, word_append isName.1 (wordEnds_args _)]
  exact .bind (reads_args each rest) links

/-- An assignment to a slot ends in its value, which is read as far as it goes. So no link can
follow, and as a receiver the whole assignment needs parentheses. -/
theorem readable_setSlot {e value : Expr} (readable : Readable e) (values : Readable value)
    {name : String} (isName : IsName name) : Readable (.setSlot e name value) := by
  apply Readable.of_alone rfl
  intro rest ends
  have noArgs (rest : List Char) : after "(" (" = ".toList ++ rest) = none := rfl
  rw [Expr.rightNested, Expr.dump]
  simp only [String.toList_append, List.append_assoc]
  apply reads_receiver readable
  apply Reads.succ
  simp only [readLinks, after_append, word_append isName.1 (wordEnds_value _), noArgs]
  exact .bind (values.alone ends) (.of_eq fun _ => rfl)

/-- An assignment to a variable ends in its value, which is read as far as it goes; as a receiver it
needs parentheses, just as an assignment to a slot does. -/
theorem readable_set {name : String} (isName : IsName name) {value : Expr}
    (values : Readable value) : Readable (.set name value) := by
  apply Readable.of_alone rfl
  intro rest ends
  have noArgs (rest : List Char) : after "(" (" = ".toList ++ rest) = none := rfl
  rw [Expr.rightNested, Expr.dump]
  simp only [String.toList_append, List.append_assoc]
  refine reads_expr (reads_name isName (wordEnds_value _) ?_) (reads_noLinks _ ends)
  apply Reads.succ
  simp only [readNamed, after_append, noArgs]
  exact .bind (values.alone ends) (.of_eq fun _ => rfl)

/-! ## Statements in sequence -/

/-- What is read of a statement: its steps, and then the steps that follow. A sequence is written
without braces, so its own steps and those behind it cannot be told apart. -/
def ReadableStmt (s : Stmt) : Prop :=
  ∀ {tail others rest}, ExprEnds tail →
    Reads (fun bound => readFurther bound tail) (others, rest) →
    Reads (fun bound => readSteps bound (s.dump.toList ++ tail)) (s.steps ++ others, rest)

/-- A statement that is no sequence is one step, so it is enough that it is read alone. -/
theorem ReadableStmt.of_step {s step : Stmt} (steps : s.steps = [step])
    (reads : ∀ {rest}, ExprEnds rest →
      Reads (fun bound => readStep bound (s.dump.toList ++ rest)) (step, rest)) :
    ReadableStmt s := by
  intro tail others rest ends further
  rw [steps]
  apply Reads.succ
  simp only [readSteps]
  exact .bind (reads ends) (.bind further (.of_eq fun _ => rfl))

/-- A sequence is read as its first statement and what comes after it. Where the first is a sequence
too, the reader nests what it reads to the right, and no text tells the two apart. -/
theorem readableStmt_seq {first second : Stmt} (firsts : ReadableStmt first)
    (seconds : ReadableStmt second) : ReadableStmt (.seq first second) := by
  intro tail others rest ends further
  rw [Stmt.steps, Stmt.dump, List.append_assoc]
  simp only [String.toList_append, List.append_assoc]
  apply firsts (exprEnds_sign (by decide) _)
  apply Reads.succ
  simp only [readFurther, after_append]
  exact seconds ends further

/-- Statements in braces are read up to the closing brace. What is handed back is one statement,
their steps nested to the right. -/
theorem reads_block {s : Stmt} (readable : ReadableStmt s) (rest : List Char) :
    Reads (fun bound => readBlock bound
        (" \x7b ".toList ++ (s.dump.toList ++ (" \x7d".toList ++ rest))))
      (.ofList s.steps, rest) := by
  have further : Reads (fun bound => readFurther bound (" \x7d".toList ++ rest))
      ([], " \x7d".toList ++ rest) := by
    apply Reads.succ
    exact .of_eq fun _ => by simp only [readFurther]; rfl
  have steps := readable (exprEnds_sign (by decide) rest) further
  rw [List.append_nil] at steps
  apply Reads.succ
  simp only [readBlock]
  exact .sign (.bind steps (.sign (.of_eq fun _ => rfl)))

/-- A condition with its two branches in braces. A branch is a statement, and a brace ends it, so
the branches need not be told apart in any other way. -/
theorem readable_cond {pred : Expr} {conseq alt : Stmt} (preds : Readable pred)
    (conseqs : ReadableStmt conseq) (alts : ReadableStmt alt) :
    Readable (.cond pred conseq alt) := by
  apply Readable.of_alone rfl
  intro rest ends
  have text : (Expr.cond pred conseq alt).dump.toList ++ rest = "if".toList ++ (" ".toList ++
      (pred.dump.toList ++ (" \x7b ".toList ++ (conseq.dump.toList ++ (" \x7d".toList ++
        (" else".toList ++ (" \x7b ".toList ++ (alt.dump.toList ++
          (" \x7d".toList ++ rest))))))))) := by
    simp
  rw [Expr.rightNested, text]
  refine reads_expr (reads_word (by decide) (by rintro c ⟨⟩; rfl) ?_) (reads_noLinks _ ends)
  apply Reads.succ
  simp only [readWorded]
  exact .sign (.bind (preds.alone (exprEnds_sign (by decide) _)) (.bind (reads_block conseqs _)
    (.sign (.bind (reads_block alts rest) (.of_eq fun _ => rfl)))))

/-- A loop is its condition and its body in braces; the condition is read alone, up to the brace
that opens the body. -/
theorem readable_loop {pred : Expr} {body : Stmt} (preds : Readable pred)
    (bodies : ReadableStmt body) : Readable (.loop pred body) := by
  apply Readable.of_alone rfl
  intro rest ends
  have text : (Expr.loop pred body).dump.toList ++ rest = "while".toList ++ (" ".toList ++
      (pred.dump.toList ++ (" \x7b ".toList ++ (body.dump.toList ++
        (" \x7d".toList ++ rest))))) := by
    simp
  rw [Expr.rightNested, text]
  refine reads_expr (reads_word (by decide) (by rintro c ⟨⟩; rfl) ?_) (reads_noLinks _ ends)
  apply Reads.succ
  simp only [readWorded]
  exact .sign (.bind (preds.alone (exprEnds_sign (by decide) _))
    (.bind (reads_block bodies rest) (.of_eq fun _ => rfl)))

/-! ## Routines and members -/

/-- Names with a comma before each. -/
def moreParams (params : List String) : List Char :=
  params.flatMap fun param => ", ".toList ++ param.toList

/-- Parameters with commas between them are the first parameter and then each other one behind a
comma, which is how they are read. -/
theorem intercalate_cons (param : String) (params : List String) :
    (", ".intercalate (param :: params)).toList = param.toList ++ moreParams params := by
  induction params generalizing param with
  | nil => simp [moreParams]
  | cons next params inductionHypothesis =>
    rw [String.intercalate_cons_cons, String.toList_append, String.toList_append,
      inductionHypothesis]
    simp [moreParams]

/-- A parameter ends before the comma of the next one and before the closing parenthesis. Parameters
are names and not expressions, so the end of a word is all that is needed. -/
theorem wordEnds_params (params : List String) (rest : List Char) :
    WordEnds (moreParams params ++ (")".toList ++ rest)) := by
  cases params with
  | nil =>
    rintro c ⟨⟩
    rfl
  | cons param params =>
    rintro c ⟨⟩
    rfl

/-- After the first parameter each one has a comma before it, and the closing parenthesis ends them;
the shape is that of arguments, with names in place of expressions. -/
theorem reads_moreParams {params : List String} (names : ∀ param ∈ params, IsName param)
    (rest : List Char) :
    Reads (fun bound => readParams bound ", " (moreParams params ++ (")".toList ++ rest)))
      (params, rest) := by
  induction params with
  | nil =>
    apply Reads.succ
    apply Reads.of_eq
    intro bound
    simp only [moreParams, List.flatMap_nil, List.nil_append, readParams, after_append]
  | cons param params inductionHypothesis =>
    obtain ⟨first, others⟩ := List.forall_mem_cons.mp names
    have text : moreParams (param :: params) ++ (")".toList ++ rest) = ", ".toList ++
        (param.toList ++ (moreParams params ++ (")".toList ++ rest))) := by
      simp [moreParams]
    rw [text]
    apply Reads.succ
    simp only [readParams]
    apply Reads.sign
    simp only [word_append first.1 (wordEnds_params params rest)]
    exact .bind (inductionHypothesis others) (.of_eq fun _ => rfl)

/-- Parameters between their parentheses. A routine may have none, and a name does not begin with a
parenthesis, so the two cases are told apart by the first character. -/
theorem reads_params {params : List String} (names : ∀ param ∈ params, IsName param)
    (rest : List Char) :
    Reads (fun bound => readParams bound ""
        ((", ".intercalate params).toList ++ (")".toList ++ rest))) (params, rest) := by
  cases params with
  | nil =>
    apply Reads.succ
    apply Reads.of_eq
    intro bound
    simp only [String.intercalate_nil, String.toList_empty, List.nil_append, readParams,
      after_append]
  | cons param params =>
    obtain ⟨first, others⟩ := List.forall_mem_cons.mp names
    have noClose (rest : List Char) : after ")" (param.toList ++ rest) = none := by
      obtain ⟨c, others, spelled, named, _⟩ := first.1.head
      have noParen : c ≠ ')' := by
        rintro rfl
        exact absurd named (by decide)
      simp [spelled, after, List.dropPrefix?, noParen]
    rw [intercalate_cons, List.append_assoc]
    apply Reads.succ
    simp only [readParams, noClose]
    refine .bind (.of_eq fun _ => after_empty _) ?_
    simp only [word_append first.1 (wordEnds_params params rest)]
    exact .bind (reads_moreParams others rest) (.of_eq fun _ => rfl)

/-- A routine is its name, its parameters and its body in braces. Only the body may be read back
nested in another way. -/
theorem reads_routine {routine : Routine} (isName : IsName routine.name)
    (areNames : ∀ param ∈ routine.params, IsName param) (bodies : ReadableStmt routine.body)
    (rest : List Char) :
    Reads (fun bound => readRoutine bound (routine.dump.toList ++ rest))
      (routine.rightNested, rest) := by
  obtain ⟨name, params, body⟩ := routine
  have text : (Routine.mk name params body).dump.toList ++ rest = name.toList ++ ("(".toList ++
      ((", ".intercalate params).toList ++ (")".toList ++ (" \x7b ".toList ++
        (body.dump.toList ++ (" \x7d".toList ++ rest)))))) := by
    simp
  rw [text, Routine.rightNested]
  apply Reads.succ
  simp only [readRoutine, word_append isName.1 (wordEnds_args _)]
  exact .sign (.bind (reads_params areNames _) (.bind (reads_block bodies rest)
    (.of_eq fun _ => rfl)))

/-- What is read of a member, up to what ends an expression: a variable ends with its initial
value. -/
def ReadableMember (member : Member) : Prop :=
  ∀ {rest}, ExprEnds rest →
    Reads (fun bound => readMember bound (member.dump.toList ++ rest)) (member.rightNested, rest)

/-- A slot that is a variable is read with its initial value, up to what ends an expression. Its
name ends before the sign of an assignment. -/
theorem readableMember_var {name : String} (isName : IsName name) {init : Expr}
    (inits : Readable init) : ReadableMember (.var name init) := by
  intro rest ends
  rw [Member.dump, Member.rightNested]
  simp only [String.toList_append, List.append_assoc]
  apply Reads.succ
  simp only [readMember, after_append, word_append isName.1 (wordEnds_value _)]
  exact .bind (.of_eq fun _ => rfl) (.bind (inits.alone ends) (.of_eq fun _ => rfl))

/-- A method is read as a routine is. It is told from a variable by the word in front of it. -/
theorem readableMember_method {routine : Routine}
    (routines : ∀ rest, Reads (fun bound => readRoutine bound (routine.dump.toList ++ rest))
      (routine.rightNested, rest)) : ReadableMember (.method routine) := by
  intro rest ends
  have noVar (rest : List Char) : after "var " ("method ".toList ++ rest) = none := rfl
  rw [Member.dump, Member.rightNested]
  simp only [String.toList_append, List.append_assoc]
  apply Reads.succ
  simp only [readMember, noVar]
  exact .sign (.bind (routines rest) (.of_eq fun _ => rfl))

/-- The initial value of a member ends before the sign that separates members and before the brace
that closes the object. -/
theorem exprEnds_members (members : List Member) (rest : List Char) :
    ExprEnds ((Member.dumpMore members).toList ++ (" \x7d".toList ++ rest)) := by
  cases members with
  | nil =>
    rw [Member.dumpMore]
    exact exprEnds_sign (by decide) rest
  | cons member members =>
    rw [Member.dumpMore]
    simp only [String.toList_append, List.append_assoc]
    exact exprEnds_sign (by decide) _

/-- After the first member each one has a separating sign before it, and the closing brace ends
them. By induction over the members. -/
theorem reads_moreMembers {members : List Member} (each : ∀ member ∈ members, ReadableMember member)
    (rest : List Char) :
    Reads (fun bound => readMembers bound "; "
        ((Member.dumpMore members).toList ++ (" \x7d".toList ++ rest)))
      (Member.rightNestedAll members, rest) := by
  induction members with
  | nil =>
    apply Reads.succ
    apply Reads.of_eq
    intro bound
    simp only [Member.dumpMore, Member.rightNestedAll, String.toList_empty, List.nil_append,
      readMembers, after_append]
  | cons member members inductionHypothesis =>
    obtain ⟨first, others⟩ := List.forall_mem_cons.mp each
    rw [Member.dumpMore, Member.rightNestedAll]
    simp only [String.toList_append, List.append_assoc]
    apply Reads.succ
    simp only [readMembers]
    exact .sign (.bind (first (exprEnds_members members rest))
      (.bind (inductionHypothesis others) (.of_eq fun _ => rfl)))

/-- The members of an object between its braces; an object without members is told from others by
the closing brace, which begins no member. -/
theorem reads_members {members : List Member} (each : ∀ member ∈ members, ReadableMember member)
    (rest : List Char) :
    Reads (fun bound => readMembers bound " "
        ((Member.dumpAll members).toList ++ (" \x7d".toList ++ rest)))
      (Member.rightNestedAll members, rest) := by
  cases members with
  | nil =>
    apply Reads.succ
    apply Reads.of_eq
    intro bound
    simp only [Member.dumpAll, Member.rightNestedAll, String.toList_empty, List.nil_append,
      readMembers, after_append]
  | cons member members =>
    obtain ⟨first, others⟩ := List.forall_mem_cons.mp each
    have noClose (rest : List Char) :
        after " \x7d" (" ".toList ++ (member.dump.toList ++ rest)) = none := by
      cases member <;> simp [after, List.dropPrefix?]
    rw [Member.dumpAll, Member.rightNestedAll]
    simp only [String.toList_append, List.append_assoc]
    apply Reads.succ
    simp only [readMembers, noClose]
    exact .sign (.bind (first (exprEnds_members members rest))
      (.bind (reads_moreMembers others rest) (.of_eq fun _ => rfl)))

/-- An object is its parent in parentheses and its members in braces. As a receiver it is put in
parentheses, so no link comes directly after its closing brace. -/
theorem readable_object {parent : Expr} {members : List Member} (parents : Readable parent)
    (each : ∀ member ∈ members, ReadableMember member) : Readable (.object parent members) := by
  apply Readable.of_alone rfl
  intro rest ends
  have text : (Expr.object parent members).dump.toList ++ rest = "object".toList ++ ("(".toList ++
      (parent.dump.toList ++ (") \x7b".toList ++ ((Member.dumpAll members).toList ++
        (" \x7d".toList ++ rest))))) := by
    simp
  rw [Expr.rightNested, text]
  refine reads_expr (reads_word (by decide) (wordEnds_args _) ?_) (reads_noLinks _ ends)
  apply Reads.succ
  simp only [readWorded]
  exact .sign (.bind (parents.alone (exprEnds_sign (by decide) _)) (.sign
    (.bind (reads_members each rest) (.of_eq fun _ => rfl))))

/-! ## Single statements -/

/-- A declaration of a variable is told from an expression by the word in front of it, which is
reserved, and is then read with its initial value. -/
theorem readableStmt_var {name : String} (isName : IsName name) {init : Expr}
    (inits : Readable init) : ReadableStmt (.var name init) := by
  have steps : (Stmt.var name init).steps = [.var name init.rightNested] := by rw [Stmt.steps]
  apply ReadableStmt.of_step steps
  intro rest ends
  rw [Stmt.dump]
  simp only [String.toList_append, List.append_assoc]
  apply Reads.succ
  simp only [readStep, after_append, word_append isName.1 (wordEnds_value _)]
  exact .bind (.of_eq fun _ => rfl) (.bind (inits.alone ends) (.of_eq fun _ => rfl))

/-- A declaration of a function is told from an expression by the word in front of it, and is then
read as a routine. -/
theorem readableStmt_fn {routine : Routine}
    (routines : ∀ rest, Reads (fun bound => readRoutine bound (routine.dump.toList ++ rest))
      (routine.rightNested, rest)) : ReadableStmt (.fn routine) := by
  have steps : (Stmt.fn routine).steps = [.fn routine.rightNested] := by rw [Stmt.steps]
  apply ReadableStmt.of_step steps
  intro rest ends
  have noVar (rest : List Char) : after "var " ("defn ".toList ++ rest) = none := rfl
  rw [Stmt.dump]
  simp only [String.toList_append, List.append_assoc]
  apply Reads.succ
  simp only [readStep, noVar, after_append]
  exact .bind (routines rest) (.of_eq fun _ => rfl)

/-- An expression is read as a statement, since its dump begins with none of the words that declare
something. -/
theorem readableStmt_expr {e : Expr} (readable : Readable e) : ReadableStmt (.expr e) := by
  have steps : (Stmt.expr e).steps = [.expr e.rightNested] := by rw [Stmt.steps]
  apply ReadableStmt.of_step steps
  intro rest ends
  have noVar := readable.after_eq_none (s := "var ") (by decide) ends
  have noFn := readable.after_eq_none (s := "defn ") (by decide) ends
  rw [Stmt.dump]
  apply Reads.succ
  simp only [readStep, noVar, noFn]
  exact .bind (readable.alone ends) (.of_eq fun _ => rfl)

end Dump

/-! ## Terms of all kinds -/

open Dump

mutual

/-- Every expression in which the names look like names is read back from its dump. The induction is
over the whole term, with one case for each construct, and statements, members and routines are
taken along because they occur in expressions. -/
theorem Expr.readable : ∀ e : Expr, (∀ name ∈ e.names, IsName name) → Readable e
  | .int n, _ => readable_int n
  | .null, _ => readable_null
  | .printf format args, named => by
    rw [Expr.names] at named
    exact readable_printf format (Expr.readableAll args named)
  | .array length init, named => by
    rw [Expr.names, List.forall_mem_append] at named
    exact readable_array (length.readable named.1) (init.readable named.2)
  | .object parent members, named => by
    rw [Expr.names, List.forall_mem_append] at named
    exact readable_object (parent.readable named.1) (Member.readableAll members named.2)
  | .slot e name, named => by
    rw [Expr.names, List.forall_mem_cons] at named
    exact readable_slot (e.readable named.2) named.1
  | .setSlot e name value, named => by
    rw [Expr.names, List.forall_mem_cons, List.forall_mem_append] at named
    exact readable_setSlot (e.readable named.2.1) (value.readable named.2.2) named.1
  | .callSlot e name args, named => by
    rw [Expr.names, List.forall_mem_cons, List.forall_mem_append] at named
    exact readable_callSlot (e.readable named.2.1) named.1 (Expr.readableAll args named.2.2)
  | .call name args, named => by
    rw [Expr.names, List.forall_mem_cons] at named
    exact readable_call named.1 (Expr.readableAll args named.2)
  | .set name value, named => by
    rw [Expr.names, List.forall_mem_cons] at named
    exact readable_set named.1 (value.readable named.2)
  | .cond pred conseq alt, named => by
    rw [Expr.names, List.forall_mem_append, List.forall_mem_append] at named
    exact readable_cond (pred.readable named.1) (conseq.readable named.2.1)
      (alt.readable named.2.2)
  | .loop pred body, named => by
    rw [Expr.names, List.forall_mem_append] at named
    exact readable_loop (pred.readable named.1) (body.readable named.2)
  | .ref name, named => by
    rw [Expr.names] at named
    exact readable_ref (named name List.mem_cons_self)

/-- So are expressions in a list, such as the arguments of a call. The list is part of the recursion
over expressions, as it comes out of one. -/
theorem Expr.readableAll :
    ∀ es : List Expr, (∀ name ∈ Expr.namesOfAll es, IsName name) → ∀ e ∈ es, Readable e
  | [], _ => List.forall_mem_nil _
  | e :: rest, named => by
    rw [Expr.namesOfAll, List.forall_mem_append] at named
    rw [List.forall_mem_cons]
    exact ⟨e.readable named.1, Expr.readableAll rest named.2⟩

/-- So is a member of an object: a variable through its initial value, a method through its
routine. -/
theorem Member.readable :
    ∀ member : Member, (∀ name ∈ member.names, IsName name) → ReadableMember member
  | .var name init, named => by
    rw [Member.names, List.forall_mem_cons] at named
    exact readableMember_var named.1 (init.readable named.2)
  | .method routine, named => by
    rw [Member.names] at named
    exact readableMember_method (routine.readable named)

/-- So are all members of an object, in the same recursion. -/
theorem Member.readableAll :
    ∀ members : List Member, (∀ name ∈ Member.namesOfAll members, IsName name) →
      ∀ member ∈ members, ReadableMember member
  | [], _ => List.forall_mem_nil _
  | member :: rest, named => by
    rw [Member.namesOfAll, List.forall_mem_append] at named
    rw [List.forall_mem_cons]
    exact ⟨member.readable named.1, Member.readableAll rest named.2⟩

/-- So is a statement. A sequence is the one construct that is read back in another nesting. -/
theorem Stmt.readable : ∀ s : Stmt, (∀ name ∈ s.names, IsName name) → ReadableStmt s
  | .var name init, named => by
    rw [Stmt.names, List.forall_mem_cons] at named
    exact readableStmt_var named.1 (init.readable named.2)
  | .fn routine, named => by
    rw [Stmt.names] at named
    exact readableStmt_fn (routine.readable named)
  | .seq first second, named => by
    rw [Stmt.names, List.forall_mem_append] at named
    exact readableStmt_seq (first.readable named.1) (second.readable named.2)
  | .expr e, named => by
    rw [Stmt.names] at named
    exact readableStmt_expr (e.readable named)

/-- So is a routine, whose parameters look like names as well. Its body is a statement between
braces. -/
theorem Routine.readable :
    ∀ routine : Routine, (∀ name ∈ routine.names, IsName name) → ∀ rest,
      Reads (fun bound => readRoutine bound (routine.dump.toList ++ rest))
        (routine.rightNested, rest)
  | ⟨name, params, body⟩, named => by
    rw [Routine.names, List.forall_mem_cons, List.forall_mem_append] at named
    exact reads_routine named.1 named.2.1 (body.readable named.2.2)

end

/-- The steps of a program are read back from its dump, and nothing of the dump is left over. -/
theorem Stmt.reads_dump {program : Stmt} (named : program.WellNamed) :
    Reads (fun bound => readSteps bound program.dump.toList) (program.steps, []) := by
  have further : Reads (fun bound => readFurther bound []) ([], []) := by
    apply Reads.succ
    exact .of_eq fun _ => by simp only [readFurther]; rfl
  have reads := program.readable named exprEnds_nil further
  rw [List.append_nil, List.append_nil] at reads
  exact reads

/-! ## What association does not change -/

/-- A term as text, and whether it needs parentheses to be a receiver. The dump of a term around it
depends on nothing else. -/
def Term.dump : Term → String × Bool
  | .expr e => (e.dump, e.needsParens)
  | .member inner => (inner.dump, false)
  | .stmt s => (s.dump, false)
  | .routine inner => (inner.dump, false)

/-- Further arguments have the same dumps if they have them one by one; they are given in pairs, so
that there are as many on both sides. -/
theorem Expr.dumpMore_congr {pairs : List (Expr × Expr)}
    (same : ∀ pair ∈ pairs, pair.1.dump = pair.2.dump) :
    Expr.dumpMore (pairs.map Prod.fst) = Expr.dumpMore (pairs.map Prod.snd) := by
  induction pairs with
  | nil => rfl
  | cons pair pairs inductionHypothesis =>
    obtain ⟨first, others⟩ := List.forall_mem_cons.mp same
    simp only [List.map_cons, Expr.dumpMore, first, inductionHypothesis others]

/-- Arguments have the same dumps if they have them one by one. The first has no comma before it,
and the others are further ones. -/
theorem Expr.dumpAll_congr {pairs : List (Expr × Expr)}
    (same : ∀ pair ∈ pairs, pair.1.dump = pair.2.dump) :
    Expr.dumpAll (pairs.map Prod.fst) = Expr.dumpAll (pairs.map Prod.snd) := by
  cases pairs with
  | nil => rfl
  | cons pair pairs =>
    obtain ⟨first, others⟩ := List.forall_mem_cons.mp same
    simp only [List.map_cons, Expr.dumpAll, first, Expr.dumpMore_congr others]

/-- Further members have the same dumps if they have them one by one. Each of them has a sign before
it. -/
theorem Member.dumpMore_congr {pairs : List (Member × Member)}
    (same : ∀ pair ∈ pairs, pair.1.dump = pair.2.dump) :
    Member.dumpMore (pairs.map Prod.fst) = Member.dumpMore (pairs.map Prod.snd) := by
  induction pairs with
  | nil => rfl
  | cons pair pairs inductionHypothesis =>
    obtain ⟨first, others⟩ := List.forall_mem_cons.mp same
    simp only [List.map_cons, Member.dumpMore, first, inductionHypothesis others]

/-- Members have the same dumps if they have them one by one, as arguments do. -/
theorem Member.dumpAll_congr {pairs : List (Member × Member)}
    (same : ∀ pair ∈ pairs, pair.1.dump = pair.2.dump) :
    Member.dumpAll (pairs.map Prod.fst) = Member.dumpAll (pairs.map Prod.snd) := by
  cases pairs with
  | nil => rfl
  | cons pair pairs =>
    obtain ⟨first, others⟩ := List.forall_mem_cons.mp same
    simp only [List.map_cons, Member.dumpAll, first, Member.dumpMore_congr others]

/-- Terms that are the same up to association have the same dump. By induction on how one comes from
the other: the dump of a sequence joins those of its parts, and joining is associative. -/
theorem Term.Reassociates.dump_eq {t u : Term} (same : t.Reassociates u) : t.dump = u.dump := by
  have firsts {pairs : List (Expr × Expr)}
      (args : ∀ pair ∈ pairs, Term.dump (.expr pair.1) = Term.dump (.expr pair.2)) :
      ∀ pair ∈ pairs, pair.1.dump = pair.2.dump :=
    fun pair listed => congrArg Prod.fst (args pair listed)
  induction same with
  | refl t => rfl
  | symm _ inductionHypothesis => exact inductionHypothesis.symm
  | trans _ _ firstHypothesis secondHypothesis => exact firstHypothesis.trans secondHypothesis
  | rotate a b c => simp only [Term.dump, Stmt.dump, String.append_assoc]
  | printf format _ args =>
    simp only [Term.dump, Expr.dump, Expr.dumpMore_congr (firsts args)]
    rfl
  | call name _ args =>
    simp only [Term.dump, Expr.dump, Expr.dumpAll_congr (firsts args)]
    rfl
  | callSlot name _ _ receivers args =>
    simp only [Term.dump, Prod.mk.injEq] at receivers
    simp only [Term.dump, Expr.dump, Expr.asReceiver, receivers, Expr.dumpAll_congr (firsts args)]
    rfl
  | object _ _ parents members =>
    simp only [Term.dump, Prod.mk.injEq, and_true] at parents members
    simp only [Term.dump, Expr.dump, parents, Member.dumpAll_congr members]
    rfl
  | array _ _ firsts seconds | loop _ _ firsts seconds | setSlot _ _ _ firsts seconds =>
    simp only [Term.dump, Prod.mk.injEq, and_true] at firsts seconds
    simp only [Term.dump, Expr.dump, Expr.asReceiver, firsts, seconds]
    rfl
  | cond _ _ _ preds conseqs alts =>
    simp only [Term.dump, Prod.mk.injEq, and_true] at preds conseqs alts
    simp only [Term.dump, Expr.dump, preds, conseqs, alts]
    rfl
  | slot _ _ parts | set _ _ parts =>
    simp only [Term.dump, Prod.mk.injEq] at parts
    simp only [Term.dump, Expr.dump, Expr.asReceiver, parts]
    rfl
  | seq _ _ firsts seconds =>
    simp only [Term.dump, Prod.mk.injEq, and_true] at firsts seconds
    simp only [Term.dump, Stmt.dump, firsts, seconds]
  | slotVar _ _ parts | method _ parts | var _ _ parts | fn _ parts | expr _ parts
  | routine _ _ _ parts =>
    simp only [Term.dump, Prod.mk.injEq, and_true] at parts
    simp only [Term.dump, Member.dump, Stmt.dump, Routine.dump, parts]

/-- The dump is unambiguous. Two programs whose names look like names have the same dump exactly if
they are the same up to association. -/
theorem dump_unambiguous {p q : Stmt} (pNamed : p.WellNamed) (qNamed : q.WellNamed) :
    p.dump = q.dump ↔ p.Reassociates q := by
  constructor
  · intro same
    have read := Stmt.reads_dump pNamed
    rw [same] at read
    exact Stmt.reassociates_iff.mpr (congrArg Prod.fst (read.unique (Stmt.reads_dump qNamed)))
  · intro same
    exact congrArg Prod.fst (Term.Reassociates.dump_eq same)

/-- Three statements in sequence, in a function's body, nested in two ways: an assignment that is a
receiver, an object literal that is tested, and a negative integer that is a receiver. -/
theorem dump_unambiguous_two_nestings :
    let first := Stmt.expr (.slot (.set "x" (.ref "this")) "y")
    let second := Stmt.expr (.cond (.object .null [.var "z" .null]) (.var "v" .null) (.expr .null))
    let third := Stmt.expr (.callSlot (.int (-1)) "add" [.printf "\"~\n\"" [.int 2]])
    let p := Stmt.defn "f" ["this"] (.seq (.seq first second) third)
    let q := Stmt.defn "f" ["this"] (.seq first (.seq second third))
    p.WellNamed ∧ q.WellNamed ∧ p.dump = q.dump ∧ p.Reassociates q := by
  intro first second third p q
  have pNamed : p.WellNamed := by
    unfold Stmt.WellNamed
    decide
  have qNamed : q.WellNamed := by
    unfold Stmt.WellNamed
    decide
  have same : p.dump = q.dump := by decide
  exact ⟨pNamed, qNamed, same, (dump_unambiguous pNamed qNamed).mp same⟩

end SlotLang
