import SlotLang.Proofs.Machine.Discipline
import SlotLang.Proofs.Machine.Provenance

/-!
# Where names come from

A name that is bound stays bound, and a new one comes from a declaration. A function is declared in
the global scope, wherever its declaration stands: in the code itself, or in a routine that is
called on the way. A variable is declared in the innermost scope, so those that the code declares
outside the bodies of routines are global only if there is no local scope. An assignment introduces
nothing.

The routines that may be called change while code runs. What is kept is that each of them declares
only functions that were declared somewhere at the start, in the code or in a routine that was held.
-/

namespace SlotLang

/-- What became of a scope. Names that were bound are bound, and each new one is admitted. What they
are bound to is not said. -/
structure Scope.Gains (admitted : String → Prop) (before after : Scope) : Prop where
  /-- No name is lost. -/
  kept : ∀ name, before.contains name → after.contains name
  /-- Each new name is admitted. -/
  new : ∀ name, after.contains name → before.contains name ∨ admitted name

namespace Scope.Gains

variable {admitted admitted' : String → Prop} {before between after : Scope}

/-- A scope gains nothing by being left as it is. -/
theorem refl (admitted : String → Prop) (scope : Scope) : Scope.Gains admitted scope scope :=
  ⟨fun _ => id, fun _ => .inl⟩

/-- What is gained in two stages was bound before the first of them, or was admitted at one of the
two. -/
theorem trans (first : Scope.Gains admitted before between)
    (second : Scope.Gains admitted between after) : Scope.Gains admitted before after where
  kept := fun name bound => second.kept name (first.kept name bound)
  new := by
    intro name bound
    rcases second.new name bound with earlier | new
    · exact first.new name earlier
    · exact .inr new

/-- What is gained may also be seen as gained under a weaker condition. -/
theorem mono (imp : ∀ name, admitted name → admitted' name)
    (gains : Scope.Gains admitted before after) : Scope.Gains admitted' before after :=
  ⟨gains.kept, fun name bound => (gains.new name bound).imp_right (imp name)⟩

/-- Binding a name that is bound already or is admitted. No other name is new. -/
theorem insert (scope : Scope) {name : String} (bound : scope.contains name ∨ admitted name)
    (binding : Binding) : Scope.Gains admitted scope (Table.insert scope name binding) := by
  constructor
  · intro tested before
    unfold Table.contains at before ⊢
    rw [Table.get?_insert]
    split
    · rfl
    · exact before
  · intro tested after
    by_cases same : tested = name
    · exact same ▸ bound
    · unfold Table.contains at after ⊢
      rw [Table.get?_insert, if_neg same] at after
      exact .inl after

end Scope.Gains

/-- What became of a local scope. Its new names are admitted, and it holds no routine that it did
not hold before. -/
structure Scope.GainsVariables (admitted : String → Prop) (before after : Scope) : Prop
    extends Scope.Gains admitted before after where
  /-- A routine in it was there before. -/
  routines : ∀ name routine, after.get? name = some (.routine routine) →
    before.get? name = some (.routine routine)

namespace Scope.GainsVariables

variable {admitted : String → Prop} {before between after : Scope}

/-- A local scope that is left as it is gains nothing and no routine. -/
theorem refl (admitted : String → Prop) (scope : Scope) :
    Scope.GainsVariables admitted scope scope :=
  ⟨.refl admitted scope, fun _ _ => id⟩

/-- A routine found after two stages was there before the first of them, since neither adds one. -/
theorem trans (first : Scope.GainsVariables admitted before between)
    (second : Scope.GainsVariables admitted between after) :
    Scope.GainsVariables admitted before after :=
  ⟨first.toGains.trans second.toGains,
    fun name routine found => first.routines name routine (second.routines name routine found)⟩

/-- Binding a variable in a local scope admits one name, and takes a routine of that name away
rather than adding one. -/
theorem insert (scope : Scope) {name : String} (bound : scope.contains name ∨ admitted name)
    (value : Value) :
    Scope.GainsVariables admitted scope (Table.insert scope name (.var value)) := by
  refine ⟨.insert scope bound (.var value), ?_⟩
  intro tested routine found
  rw [Table.get?_insert] at found
  split at found
  · cases found
  · exact found

end Scope.GainsVariables

/-! ## The scopes of a state -/

/-- What became of the names in the scopes of a state where functions and variables are declared.
The local scope and the global one may gain different names. -/
structure State.NamesGrow (functions declared : String → Prop) (s t : State) : Prop where
  /-- A new global name is that of a function or, if there is no local scope, of a variable. -/
  globals : s.globals.Gains (fun name => functions name ∨ s.locals = none ∧ declared name)
    t.globals
  /-- There is a local scope exactly if there was one, and a new name in it is a variable's. -/
  locals : Option.Rel (Scope.GainsVariables declared) s.locals t.locals

namespace State.NamesGrow

variable {functions declared : String → Prop} {s t u : State}

/-- Where there is no local scope there is none afterwards, and where there is one it may be the
same. -/
theorem locals_refl (locals : Option Scope) :
    Option.Rel (Scope.GainsVariables declared) locals locals := by
  cases locals with
  | none => exact .none
  | some scope => exact .some (.refl declared scope)

/-- Whether there is a local scope does not change from stage to stage, so the stages can be put
together. -/
theorem locals_trans {before between after : Option Scope}
    (first : Option.Rel (Scope.GainsVariables declared) before between)
    (second : Option.Rel (Scope.GainsVariables declared) between after) :
    Option.Rel (Scope.GainsVariables declared) before after := by
  cases first with
  | none => exact second
  | some gains =>
    cases second with
    | some gains' => exact .some (gains.trans gains')

/-- Whether there is a local scope afterwards tells whether there was one before. Which declarations
are global depends on that, so it has to be known at each stage. -/
theorem locals_eq_none (grows : s.NamesGrow functions declared t) (absent : t.locals = none) :
    s.locals = none := by
  have locals := grows.locals
  rw [absent] at locals
  generalize s.locals = before at locals ⊢
  cases locals
  rfl

/-- A change that leaves the scopes alone. -/
theorem of_same (sameGlobals : t.globals = s.globals) (sameLocals : t.locals = s.locals) :
    s.NamesGrow functions declared t := by
  constructor
  · rw [sameGlobals]
    exact .refl _ _
  · rw [sameLocals]
    exact locals_refl _

/-- Names grow from stage to stage. A global name that is new at the second stage is that of a
function, or of a variable declared where there is no local scope, and then there was none at the
first stage either. -/
theorem trans (first : s.NamesGrow functions declared t)
    (second : t.NamesGrow functions declared u) : s.NamesGrow functions declared u where
  globals := first.globals.trans (second.globals.mono fun _ new =>
    new.imp_right fun ⟨absent, declared⟩ => ⟨first.locals_eq_none absent, declared⟩)
  locals := locals_trans first.locals second.locals

/-- Binding a variable in the local scope leaves the global scope alone. -/
theorem insert_local {scope : Scope} (present : s.locals = some scope) {name : String}
    (bound : scope.contains name ∨ declared name) (value : Value) :
    s.NamesGrow functions declared
      { s with locals := some (scope.insert name (.var value)) } where
  globals := .refl _ _
  locals := by
    rw [present]
    exact .some (.insert scope bound value)

/-- Binding a name in the global scope leaves the local scope alone. A new name is that of a
function, or it is declared where there is no local scope. -/
theorem insert_global {name : String}
    (bound : s.globals.contains name ∨ functions name ∨ s.locals = none ∧ declared name)
    (binding : Binding) : s.NamesGrow functions declared (s.bindGlobal name binding) where
  globals := .insert s.globals bound binding
  locals := locals_refl _

/-- An assignment binds a name only where it is bound already, whatever may be declared. -/
theorem of_assign {name : String} {value : Value} (assigned : s.assign name value = .ok t) :
    s.NamesGrow functions declared t := by
  unfold State.assign at assigned
  split at assigned
  · next scope found =>
    cases assigned
    obtain ⟨present, bound⟩ := Option.filter_eq_some_iff.mp found
    exact insert_local present (.inl bound) value
  · split at assigned
    · next bound =>
      cases assigned
      exact insert_global (.inl bound) _
    · cases assigned

/-- A variable is declared in the local scope if there is one. This is why the variables that are
declared in routines are not found among the global names. -/
theorem of_declare (s : State) {name : String} (admitted : declared name) (value : Value) :
    s.NamesGrow functions declared (s.declare name value) := by
  unfold State.declare
  split
  · next present => exact insert_local present (.inr admitted) value
  · next absent => exact insert_global (.inr (.inr ⟨absent, admitted⟩)) _

end State.NamesGrow

/-! ## The discipline -/

namespace NewNames

variable {functions declared declared' : String → Prop} {s t : State}

/-- A routine that declares only the given functions. Whether it is ever called does not matter. -/
def Admitted (functions : String → Prop) (routine : Routine) : Prop :=
  ∀ name ∈ (Code.stmt routine.body).declaredFunctions, functions name

/-- Only the given functions and variables are declared, and only routines are called that declare
no other functions. -/
def discipline (functions declared : String → Prop) : Discipline where
  states := State.HoldsOnly (Admitted functions)
  onward := State.NamesGrow functions declared
  arrays := fun _ _ => True
  objects := fun _ _ => True
  scopes := fun _ scope => scope.HoldsOnly (Admitted functions)
  declares := declared
  defines := fun routine => functions routine.name ∧ Admitted functions routine
  calls := Admitted functions

/-- Any value may be in hand, since nothing is said of values here. -/
theorem values_any (s : State) (value : Value) :
    (discipline functions declared).Values s value := by
  cases value <;> trivial

/-- A change that leaves the scopes and the objects alone. -/
theorem moves_of_same (holds : s.HoldsOnly (Admitted functions))
    (sameGlobals : t.globals = s.globals) (sameLocals : t.locals = s.locals)
    (sameObjects : t.heap.objects = s.heap.objects) :
    (discipline functions declared).Moves s t := by
  refine ⟨⟨?_, fun id => ?_⟩, .of_same sameGlobals sameLocals⟩
  · rw [sameGlobals]
    exact holds.globals
  · rw [Heap.slots, sameObjects]
    exact holds.objects id

/-- Every operation on the state lets the names grow as they may. Only declarations add names, a
function's in the global scope and a variable's in the innermost one. -/
theorem upheld (functions declared : String → Prop) (σ : Settings) :
    (discipline functions declared).Upheld σ where
  refl := fun _ => .of_same rfl rfl
  trans := State.NamesGrow.trans
  arrays := fun _ => id
  objects := fun _ => id
  scopes := fun _ => id
  freshLocals := fun _ => .empty _
  freshObject := fun _ => .empty _
  bindValue := fun name holds _ => holds.insert_var name _
  bindRoutine := fun name holds admitted => holds.insert_routine name admitted
  value := fun _ _ => values_any _ _
  routine := fun holds found => holds _ _ found
  globals := fun holds => holds.globals
  localValue := fun _ _ _ => values_any _ _
  slots := fun holds _ => holds.objects _
  print := fun _ holds => moves_of_same holds rfl rfl rfl
  addArray := fun _ holds => ⟨moves_of_same holds rfl rfl rfl, trivial⟩
  updateArray := fun _ holds _ => moves_of_same holds rfl rfl rfl
  addObject := fun holds slots => ⟨⟨holds.addObject slots, .of_same rfl rfl⟩, trivial⟩
  putSlot := fun name holds _ _ => ⟨holds.putSlot _ name _, .of_same rfl rfl⟩
  assign := by
    intro s t name value holds _ assigned
    exact ⟨holds.assign assigned, .of_assign assigned⟩
  declare := by
    intro s name value admitted holds _
    exact ⟨holds.declare name value, .of_declare s admitted value⟩
  bindGlobal := fun ⟨named, admitted⟩ holds =>
    ⟨holds.bindRoutine _ admitted, .insert_global (.inr (.inl named)) _⟩

/-- The variables that a body declares are gone when the call is over, and the functions stay. So
what a callee may declare is not what its caller may. -/
theorem allows_enter (σ : Settings) (scope : Scope) {body : Action Value}
    (bodies : (discipline functions declared').Keeps (discipline functions declared').Values body)
    (holds : s.HoldsOnly (Admitted functions)) :
    (discipline functions declared).Allows (discipline functions declared).Values s
      (Eval.enter σ scope body s) := by
  apply Discipline.allows_enter (upheld functions declared σ) holds bodies
    ⟨holds.globals, holds.objects⟩
  case left =>
    intro t moves
    refine ⟨⟨moves.states.globals, moves.states.objects⟩, ?_, State.NamesGrow.locals_refl _⟩
    refine moves.onward.globals.mono fun name new => ?_
    rcases new with function | ⟨absent, _⟩
    · exact .inl function
    · -- The body has a local scope, so none of its variables has become global.
      cases absent
  case held => exact fun _ => values_any _ _

/-- Code declares the variables and functions that are declared in it, and its calls the functions
of the routines that can be called. The induction is on the bound; the body of a call has variables
of its own. -/
theorem keeps_eval (σ : Settings) (bound : Nat) {code : Code}
    (inCode : ∀ name ∈ code.declaredVariables, declared name)
    (anywhere : ∀ name ∈ code.declaredFunctions, functions name) :
    (discipline functions declared).Keeps (discipline functions declared).Values
      (eval σ bound code) := by
  induction bound generalizing code declared with
  | zero => exact fun _ _ => .interrupted
  | succ bound inductionHypothesis =>
    have callable (routine : Routine) (inside : routine ∈ code.routines) :
        Admitted functions routine := fun name occurs =>
      anywhere name (Code.mem_declaredFunctions.mpr (.inr (.inr ⟨routine, inside, occurs⟩)))
    rw [eval_succ]
    apply Discipline.keeps_step (upheld functions declared σ)
    case callable => exact callable
    case parts =>
      intro part inside
      apply inductionHypothesis
      · exact fun name occurs =>
          inCode name (Code.mem_declaredVariables.mpr (.inr ⟨part, inside, occurs⟩))
      · exact fun name occurs =>
          anywhere name (Code.mem_declaredFunctions.mpr (.inr (.inl ⟨part, inside, occurs⟩)))
    case declared => exact fun name own => inCode name (Code.mem_declaredVariables.mpr (.inl own))
    case defined =>
      intro routine own
      constructor
      · exact anywhere _ (Code.mem_declaredFunctions.mpr (.inl ⟨routine, own, rfl⟩))
      · exact callable routine (Code.mem_routines_of_declaredFunction? own)
    case called =>
      intro routine scope s admitted holds _
      exact allows_enter σ scope (inductionHypothesis (fun _ => id) admitted) holds

end NewNames

/-! ## Names after a run -/

/-- A routine that is bound in the global scope or in an object. Local scopes bind values only. -/
def State.Holds (s : State) (routine : Routine) : Prop :=
  (∃ name, s.globals.get? name = some (.routine routine)) ∨
    ∃ id name, (s.heap.slots id).get? name = some (.routine routine)

/-- A function of the name is declared in the code, or in a routine that the state holds. No other
text is ever run. -/
def Code.MayDefine (code : Code) (s : State) (name : String) : Prop :=
  name ∈ code.declaredFunctions ∨
    ∃ routine, s.Holds routine ∧ name ∈ (Code.stmt routine.body).declaredFunctions

/-- Names come only from declarations and never disappear. However code ends, every name that was
bound is still bound in the same scope. A new global name is that of a function declared in the code
or in a routine held at the start or, if there is no local scope, that of a variable declared in the
code; a new local name is that of a variable declared in the code. A local scope that bound only
variables still does. An assignment binds no name that was not bound. -/
theorem names_from_declarations {σ : Settings} {bound : Nat} {code : Code} {s t : State}
    (ended : (eval σ bound code s).state? = some t) :
    s.NamesGrow (code.MayDefine s) (· ∈ code.declaredVariables) t ∧
    (∀ before after, s.locals = some before → t.locals = some after →
      before.HoldsOnly (fun _ => False) → after.HoldsOnly fun _ => False) ∧
    ∀ (name : String) (value : Value) (u v : State), u.assign name value = .ok v →
      u.NamesGrow (fun _ => False) (fun _ => False) v := by
  have holds : s.HoldsOnly (NewNames.Admitted (code.MayDefine s)) :=
    ⟨fun name routine found _ occurs => .inr ⟨routine, .inl ⟨name, found⟩, occurs⟩,
      fun id name routine found _ occurs => .inr ⟨routine, .inr ⟨id, name, found⟩, occurs⟩⟩
  have keeps : (NewNames.discipline (code.MayDefine s) (· ∈ code.declaredVariables)).Keeps
      (NewNames.discipline (code.MayDefine s) (· ∈ code.declaredVariables)).Values
      (eval σ bound code) := NewNames.keeps_eval σ bound (fun _ => id) fun _ => .inl
  have grows := ((keeps s holds).moves ended).onward
  refine ⟨grows, ?_, fun _ _ _ _ => .of_assign⟩
  intro before after present present' holdsNone name routine found
  have locals := grows.locals
  rw [present, present'] at locals
  cases locals with
  | some gains => exact holdsNone name routine (gains.routines name routine found)

/-- A function declares another one and a variable of its own. The code calls it, declares a
variable in a branch and then fails, on an assignment to a name that is not bound. -/
theorem names_from_declarations_nested :
    let inner : Routine := ⟨"g", [], .expr .null⟩
    let outer : Routine := ⟨"f", [], .seq (.fn inner) (.var "y" (.int 2))⟩
    let s : State := { State.initial .default .unlimited with
      globals := (Table.empty 1).insert "f" (.routine outer) }
    let declares : Stmt := .expr (.cond (.call "f" []) (.expr .null) (.var "x" (.int 1)))
    let code : Code := .stmt (.seq declares (.expr (.set "z" (.ref "x"))))
    code.declaredVariables = ["x"] ∧ code.declaredFunctions = [] ∧
      ∃ t, (eval .default 9 code s).state? = some t ∧
        s.NamesGrow (code.MayDefine s) (· ∈ code.declaredVariables) t ∧
        ["f", "g", "x", "y", "z"].filter t.globals.contains = ["f", "g", "x"] := by
  intro inner outer s declares code
  have found : (eval .default 9 code s).state?.map
      (fun t => ["f", "g", "x", "y", "z"].filter t.globals.contains) = some ["f", "g", "x"] := by
    decide +kernel
  obtain ⟨t, reached, names⟩ := Option.map_eq_some_iff.mp found
  have grows := (names_from_declarations reached).1
  exact ⟨by decide +kernel, by decide +kernel, t, reached, grows, names⟩

end SlotLang
