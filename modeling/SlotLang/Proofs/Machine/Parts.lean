import Mathlib.Data.List.Forall2
import SlotLang.Machine.Eval

/-!
# The parts of code

To evaluate code is to evaluate its parts in the scopes of the code, and to run the bodies of the
routines that it calls in scopes of their own. The body of a routine that the code merely declares
is not a part of it: it runs only where the routine is called.

What a construct itself does with names, besides evaluating its parts, is to use at most one
variable and to declare some routines. Everything that is said of a whole program is gathered from
its parts, here the variables that it names, those that it declares, the functions that it declares
and whether it loops.
-/

namespace SlotLang

/-- The expression that a member evaluates. -/
def Member.init? : Member → Option Expr
  | .var _ init => some init
  | .method _ => none

/-- The routine that a member declares. -/
def Member.routine? : Member → Option Routine
  | .var _ _ => none
  | .method routine => some routine

namespace Code

/-- The code that is evaluated where this code is, as a part of it. Bodies of routines are not: they
are evaluated where they are called. -/
def parts : Code → List Code
  | .expr (.int _) | .expr .null | .expr (.ref _) | .stmt (.fn _) => []
  | .expr (.printf _ args) | .expr (.call _ args) => args.map .expr
  | .expr (.array length init) => [.expr length, .expr init]
  | .expr (.object parent members) => .expr parent :: (members.filterMap Member.init?).map .expr
  | .expr (.slot e _) | .expr (.set _ e) | .stmt (.var _ e) | .stmt (.expr e) => [.expr e]
  | .expr (.setSlot e _ value) => [.expr e, .expr value]
  | .expr (.callSlot e _ args) => .expr e :: args.map .expr
  | .expr (.cond pred conseq alt) => [.expr pred, .stmt conseq, .stmt alt]
  | .expr (.loop pred body) => [.expr pred, .stmt body]
  | .stmt (.seq first second) => [.stmt first, .stmt second]

/-- The variable that this code reads, assigns to or declares, apart from what its parts do. No
construct has more than one. -/
def ownName? : Code → Option String
  | .expr (.ref name) | .expr (.set name _) | .stmt (.var name _) => some name
  | _ => none

/-- The routines that this code declares, apart from what its parts do: a function, or the methods
of an object. -/
def routines : Code → List Routine
  | .expr (.object _ members) => members.filterMap Member.routine?
  | .stmt (.fn routine) => [routine]
  | _ => []

/-- The variable that this code declares, apart from what its parts do. -/
def declaredVariable? : Code → Option String
  | .stmt (.var name _) => some name
  | _ => none

/-- The function that this code declares, apart from what its parts do. A method is no function: it
is bound in its object. -/
def declaredFunction? : Code → Option Routine
  | .stmt (.fn routine) => some routine
  | _ => none

/-- Whether this code is a loop. -/
def isLoop : Code → Bool
  | .expr (.loop _ _) => true
  | _ => false

/-- A function that is declared is among the routines that are. -/
theorem mem_routines_of_declaredFunction? {code : Code} {routine : Routine}
    (declared : code.declaredFunction? = some routine) : routine ∈ code.routines := by
  unfold declaredFunction? at declared
  split at declared
  · cases declared
    exact List.mem_cons_self
  · cases declared

/-- All code has a size, so a list of code can be measured by adding up. -/
theorem sizeOf_pos (code : Code) : 0 < sizeOf code := by
  cases code with
  | expr e =>
    simp only [expr.sizeOf_spec]
    omega
  | stmt s =>
    simp only [stmt.sizeOf_spec]
    omega

/-- The initial value of a member is smaller than the member. -/
theorem sizeOf_init? {member : Member} {e : Expr} (found : member.init? = some e) :
    sizeOf e < sizeOf member := by
  cases member with
  | var name init =>
    cases found
    simp only [Member.var.sizeOf_spec]
    omega
  | method routine => cases found

/-- The routine of a method is smaller than the method. -/
theorem sizeOf_routine? {member : Member} {routine : Routine}
    (found : member.routine? = some routine) : sizeOf routine < sizeOf member := by
  cases member with
  | var name init => cases found
  | method routine =>
    cases found
    simp only [Member.method.sizeOf_spec]
    omega

/-- An argument, as code, is no larger than the list that it is in: the list counts one more for
each of its items. -/
theorem sizeOf_argument {args : List Expr} {part : Code} (inside : part ∈ args.map Code.expr) :
    sizeOf part ≤ sizeOf args := by
  obtain ⟨arg, member, rfl⟩ := List.mem_map.mp inside
  have smaller := List.sizeOf_lt_of_mem member
  simp only [expr.sizeOf_spec]
  omega

/-- A part is smaller than the whole, which is what recursion over code comes down to. -/
theorem sizeOf_part {code part : Code} (inside : part ∈ code.parts) :
    sizeOf part < sizeOf code := by
  cases code with
  | expr e =>
    cases e with
    | int | null | ref => simp [parts] at inside
    | printf format args | call name args =>
      have smaller := sizeOf_argument inside
      simp only [expr.sizeOf_spec, Expr.printf.sizeOf_spec, Expr.call.sizeOf_spec]
      omega
    | array first second | setSlot first name second | cond pred first second
    | loop first second =>
      simp only [parts, List.mem_cons, List.not_mem_nil, or_false] at inside
      rcases inside with rfl | rfl | rfl
      all_goals
        simp only [expr.sizeOf_spec, stmt.sizeOf_spec, Expr.array.sizeOf_spec,
          Expr.setSlot.sizeOf_spec, Expr.cond.sizeOf_spec, Expr.loop.sizeOf_spec]
        omega
    | slot e name | set name e =>
      simp only [parts, List.mem_singleton] at inside
      subst inside
      simp only [expr.sizeOf_spec, Expr.slot.sizeOf_spec, Expr.set.sizeOf_spec]
      omega
    | callSlot e name args =>
      rcases List.mem_cons.mp inside with rfl | argument
      · simp only [expr.sizeOf_spec, Expr.callSlot.sizeOf_spec]
        omega
      · have smaller := sizeOf_argument argument
        simp only [expr.sizeOf_spec, Expr.callSlot.sizeOf_spec]
        omega
    | object parent members =>
      rcases List.mem_cons.mp inside with rfl | member
      · simp only [expr.sizeOf_spec, Expr.object.sizeOf_spec]
        omega
      · obtain ⟨e, initial, rfl⟩ := List.mem_map.mp member
        obtain ⟨member, listed, found⟩ := List.mem_filterMap.mp initial
        have smaller := sizeOf_init? found
        have smallest := List.sizeOf_lt_of_mem listed
        simp only [expr.sizeOf_spec, Expr.object.sizeOf_spec]
        omega
  | stmt s =>
    cases s with
    | fn routine => simp [parts] at inside
    | var name e | expr e =>
      simp only [parts, List.mem_singleton] at inside
      subst inside
      simp only [expr.sizeOf_spec, stmt.sizeOf_spec, Stmt.var.sizeOf_spec, Stmt.expr.sizeOf_spec]
      omega
    | seq first second =>
      simp only [parts, List.mem_cons, List.not_mem_nil, or_false] at inside
      rcases inside with rfl | rfl
      all_goals
        simp only [stmt.sizeOf_spec, Stmt.seq.sizeOf_spec]
        omega

/-- The body of a declared routine is smaller than the declaration. -/
theorem sizeOf_body {code : Code} {routine : Routine} (declared : routine ∈ code.routines) :
    sizeOf (Code.stmt routine.body) < sizeOf code := by
  have inRoutine : sizeOf routine.body < sizeOf routine := by
    cases routine
    simp only [Routine.mk.sizeOf_spec]
    omega
  unfold routines at declared
  split at declared
  · next parent members =>
    obtain ⟨member, listed, found⟩ := List.mem_filterMap.mp declared
    have smaller := sizeOf_routine? found
    have smallest := List.sizeOf_lt_of_mem listed
    simp only [expr.sizeOf_spec, stmt.sizeOf_spec, Expr.object.sizeOf_spec]
    omega
  · cases List.mem_singleton.mp declared
    simp only [stmt.sizeOf_spec, Stmt.fn.sizeOf_spec]
    omega
  · cases declared

/-- The variables that code names, its parts included and the bodies of routines not. A routine runs
in a scope of its own. -/
def namedVariables (code : Code) : List String :=
  code.ownName?.toList ++ code.parts.attach.flatMap fun ⟨part, _⟩ => part.namedVariables
termination_by sizeOf code
decreasing_by exact sizeOf_part ‹_›

/-- The variables that code names are its own and those of its parts. The parts of a routine that it
declares are not among them. -/
theorem mem_namedVariables {code : Code} {name : String} :
    name ∈ code.namedVariables ↔
      code.ownName? = some name ∨ ∃ part ∈ code.parts, name ∈ part.namedVariables := by
  rw [namedVariables]
  simp

/-- The variables that code declares, its parts included and the bodies of routines not. -/
def declaredVariables (code : Code) : List String :=
  code.declaredVariable?.toList ++
    code.parts.attach.flatMap fun ⟨part, _⟩ => part.declaredVariables
termination_by sizeOf code
decreasing_by exact sizeOf_part ‹_›

/-- The variables that code declares are its own and those of its parts. -/
theorem mem_declaredVariables {code : Code} {name : String} :
    name ∈ code.declaredVariables ↔
      code.declaredVariable? = some name ∨ ∃ part ∈ code.parts, name ∈ part.declaredVariables := by
  rw [declaredVariables]
  simp

/-- The names of the functions that are declared anywhere in code, the bodies of routines
included. -/
def declaredFunctions (code : Code) : List String :=
  (code.declaredFunction?.map Routine.name).toList ++
    code.parts.attach.flatMap (fun ⟨part, _⟩ => part.declaredFunctions) ++
    code.routines.attach.flatMap fun ⟨routine, _⟩ => (Code.stmt routine.body).declaredFunctions
termination_by sizeOf code
decreasing_by
  · exact sizeOf_part ‹_›
  · exact sizeOf_body ‹_›

/-- The functions that code declares are its own, those of its parts, and those in the bodies of the
routines that it declares: calling one of these declares them in the global scope. -/
theorem mem_declaredFunctions {code : Code} {name : String} :
    name ∈ code.declaredFunctions ↔
      (∃ routine, code.declaredFunction? = some routine ∧ routine.name = name) ∨
      (∃ part ∈ code.parts, name ∈ part.declaredFunctions) ∨
      ∃ routine ∈ code.routines, name ∈ (Code.stmt routine.body).declaredFunctions := by
  rw [declaredFunctions]
  simp

/-- Whether a loop occurs in code, the bodies of routines included. -/
def hasLoop (code : Code) : Bool :=
  code.isLoop || code.parts.attach.any (fun ⟨part, _⟩ => part.hasLoop) ||
    code.routines.attach.any fun ⟨routine, _⟩ => (Code.stmt routine.body).hasLoop
termination_by sizeOf code
decreasing_by
  · exact sizeOf_part ‹_›
  · exact sizeOf_body ‹_›

/-- Code is free of loops if it is none itself and its parts and the bodies of the routines that it
declares are. -/
theorem hasLoop_eq_false {code : Code} :
    code.hasLoop = false ↔ code.isLoop = false ∧ (∀ part ∈ code.parts, part.hasLoop = false) ∧
      ∀ routine ∈ code.routines, (Code.stmt routine.body).hasLoop = false := by
  rw [hasLoop]
  simp [and_assoc]

end Code

/-! ## Code of one construct -/

/-- Members that bind the same name, either to related initial values or to related routines. -/
inductive Member.Matches (exprs : Expr → Expr → Prop) (routines : Routine → Routine → Prop) :
    Member → Member → Prop where
  | var (name : String) {init init' : Expr} (inits : exprs init init') :
      Matches exprs routines (.var name init) (.var name init')
  | method {routine routine' : Routine} (declared : routines routine routine') :
      Matches exprs routines (.method routine) (.method routine')

/-- Code of one construct, with the same names and literals, whose parts and whose declared routines
are related. -/
inductive Code.Matches (exprs : Expr → Expr → Prop) (stmts : Stmt → Stmt → Prop)
    (routines : Routine → Routine → Prop) : Code → Code → Prop where
  | int (n : Int64) : Matches exprs stmts routines (.expr (.int n)) (.expr (.int n))
  | null : Matches exprs stmts routines (.expr .null) (.expr .null)
  | printf (format : String) {args args' : List Expr} (evaluated : List.Forall₂ exprs args args') :
      Matches exprs stmts routines (.expr (.printf format args)) (.expr (.printf format args'))
  | array {length length' init init' : Expr} (lengths : exprs length length')
      (inits : exprs init init') :
      Matches exprs stmts routines (.expr (.array length init)) (.expr (.array length' init'))
  | object {parent parent' : Expr} {members members' : List Member}
      (parents : exprs parent parent')
      (matching : List.Forall₂ (Member.Matches exprs routines) members members') :
      Matches exprs stmts routines (.expr (.object parent members))
        (.expr (.object parent' members'))
  | slot (name : String) {e e' : Expr} (receivers : exprs e e') :
      Matches exprs stmts routines (.expr (.slot e name)) (.expr (.slot e' name))
  | setSlot (name : String) {e e' value value' : Expr} (receivers : exprs e e')
      (values : exprs value value') :
      Matches exprs stmts routines (.expr (.setSlot e name value))
        (.expr (.setSlot e' name value'))
  | callSlot (name : String) {e e' : Expr} {args args' : List Expr} (receivers : exprs e e')
      (evaluated : List.Forall₂ exprs args args') :
      Matches exprs stmts routines (.expr (.callSlot e name args))
        (.expr (.callSlot e' name args'))
  | call (name : String) {args args' : List Expr} (evaluated : List.Forall₂ exprs args args') :
      Matches exprs stmts routines (.expr (.call name args)) (.expr (.call name args'))
  | set (name : String) {value value' : Expr} (values : exprs value value') :
      Matches exprs stmts routines (.expr (.set name value)) (.expr (.set name value'))
  | cond {pred pred' : Expr} {conseq conseq' alt alt' : Stmt} (preds : exprs pred pred')
      (conseqs : stmts conseq conseq') (alts : stmts alt alt') :
      Matches exprs stmts routines (.expr (.cond pred conseq alt))
        (.expr (.cond pred' conseq' alt'))
  | loop {pred pred' : Expr} {body body' : Stmt} (preds : exprs pred pred')
      (bodies : stmts body body') :
      Matches exprs stmts routines (.expr (.loop pred body)) (.expr (.loop pred' body'))
  | ref (name : String) : Matches exprs stmts routines (.expr (.ref name)) (.expr (.ref name))
  | var (name : String) {init init' : Expr} (inits : exprs init init') :
      Matches exprs stmts routines (.stmt (.var name init)) (.stmt (.var name init'))
  | fn {routine routine' : Routine} (declared : routines routine routine') :
      Matches exprs stmts routines (.stmt (.fn routine)) (.stmt (.fn routine'))
  | seq {first first' second second' : Stmt} (firsts : stmts first first')
      (seconds : stmts second second') :
      Matches exprs stmts routines (.stmt (.seq first second)) (.stmt (.seq first' second'))
  | exprStmt {e e' : Expr} (evaluated : exprs e e') :
      Matches exprs stmts routines (.stmt (.expr e)) (.stmt (.expr e'))

section Self

variable {exprs : Expr → Expr → Prop} {stmts : Stmt → Stmt → Prop}
  {routines : Routine → Routine → Prop}

/-- Members match themselves if their initial values and their routines do. -/
theorem Member.matches_self {members : List Member}
    (initial : ∀ e ∈ members.filterMap Member.init?, exprs e e)
    (declared : ∀ routine ∈ members.filterMap Member.routine?, routines routine routine) :
    List.Forall₂ (Member.Matches exprs routines) members members := by
  apply List.forall₂_same.mpr
  intro member listed
  cases member with
  | var name init =>
    exact .var name (initial init (List.mem_filterMap.mpr ⟨_, listed, rfl⟩))
  | method routine =>
    exact .method (declared routine (List.mem_filterMap.mpr ⟨_, listed, rfl⟩))

/-- Code matches itself, if its parts and its routines are related to themselves. -/
theorem Code.Matches.self {code : Code} (sameExprs : ∀ e, .expr e ∈ code.parts → exprs e e)
    (sameStmts : ∀ s, .stmt s ∈ code.parts → stmts s s)
    (declared : ∀ routine ∈ code.routines, routines routine routine) :
    Code.Matches exprs stmts routines code code := by
  have arguments {args : List Expr} (listed : ∀ arg ∈ args, .expr arg ∈ code.parts) :
      List.Forall₂ exprs args args :=
    List.forall₂_same.mpr fun arg member => sameExprs arg (listed arg member)
  cases code with
  | expr e =>
    cases e with
    | int n => exact .int n
    | null => exact .null
    | ref name => exact .ref name
    | printf format args => exact .printf format (arguments fun _ => List.mem_map_of_mem)
    | call name args => exact .call name (arguments fun _ => List.mem_map_of_mem)
    | array length init =>
      exact .array (sameExprs length (by simp [parts])) (sameExprs init (by simp [parts]))
    | object parent members =>
      refine .object (sameExprs parent List.mem_cons_self) (Member.matches_self ?_ declared)
      exact fun e initial => sameExprs e (List.mem_cons_of_mem _ (List.mem_map_of_mem initial))
    | slot e name => exact .slot name (sameExprs e List.mem_cons_self)
    | set name e => exact .set name (sameExprs e List.mem_cons_self)
    | setSlot e name value =>
      exact .setSlot name (sameExprs e (by simp [parts])) (sameExprs value (by simp [parts]))
    | callSlot e name args =>
      exact .callSlot name (sameExprs e List.mem_cons_self)
        (arguments fun _ member => List.mem_cons_of_mem _ (List.mem_map_of_mem member))
    | cond pred conseq alt =>
      exact .cond (sameExprs pred (by simp [parts])) (sameStmts conseq (by simp [parts]))
        (sameStmts alt (by simp [parts]))
    | loop pred body =>
      exact .loop (sameExprs pred (by simp [parts])) (sameStmts body (by simp [parts]))
  | stmt s =>
    cases s with
    | var name init => exact .var name (sameExprs init List.mem_cons_self)
    | fn routine => exact .fn (declared routine List.mem_cons_self)
    | seq first second =>
      exact .seq (sameStmts first (by simp [parts])) (sameStmts second (by simp [parts]))
    | expr e => exact .exprStmt (sameExprs e List.mem_cons_self)

end Self

end SlotLang
