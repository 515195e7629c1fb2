import SlotLang.Proofs.Machine.Constructs
import SlotLang.Proofs.Names.Suggestion
import SlotLang.Proofs.Table.Lookup

/-!
# Names that are not found

Code looks a name up in six places: to read or assign a variable, to call a function, to read or
write a slot and to call a method. Each place searches its own scopes, one after the other, and
reports a name that none of them binds in its own words. What the report offers is the same in all
of them: the nearest of the names that are bound, if one is at most two edits away. The names are
listed scope by scope, so of two equally near ones in different scopes the one in the earlier scope
is offered.
-/

namespace SlotLang

/-! ## The offer -/

namespace Names

variable {name found : String}

/-- Names that are no edit apart are one name. -/
theorem eq_of_apart_eq_zero {other : String} (none : apart name other = 0) : name = other := by
  have edits := (isLeast_distance name.toList other.toList).1
  change Edits (apart name other) _ _ at edits
  rw [none] at edits
  generalize source : name.toList = start, target : other.toList = goal at edits
  cases edits
  exact String.toList_inj.mp (source.trans target.symm)

/-- The first of the nearest of two lists is in the first of them, or all in the first are further
away. -/
theorem FirstNearest.of_append {front back : List String}
    (first : FirstNearest name found (front ++ back)) :
    found ∈ front ∨
      FirstNearest name found back ∧ ∀ other ∈ front, apart name found < apart name other := by
  obtain ⟨before, after, same, further, noNearer⟩ := first
  rcases List.append_eq_append_iff.mp same with ⟨between, rfl, rfl⟩ | ⟨between, rfl, rest⟩
  · refine .inr ⟨⟨between, after, rfl, ?_, noNearer⟩, ?_⟩
    · exact fun other member => further other (List.mem_append_right front member)
    · exact fun other member => further other (List.mem_append_left between member)
  · cases between with
    | nil =>
      obtain rfl : found :: after = back := rest
      rw [List.append_nil]
      exact .inr ⟨⟨[], after, rfl, by simp, noNearer⟩, further⟩
    | cons head between =>
      obtain ⟨rfl, -⟩ := List.cons.inj rest
      exact .inl (by simp)

end Names

open Names (apart)

/-- One of the scopes binds the name, to a value or to a routine. -/
def BoundIn (scopes : List Scope) (name : String) : Prop :=
  ∃ scope ∈ scopes, scope.contains name

/-- What may be offered for a name that none of the scopes binds: a name that one of them binds, one
or two edits away and no further away than any other; all that an earlier scope binds is further
away. -/
structure Offered (name : String) (scopes : List Scope) (found : String) : Prop where
  /-- The name is one or two edits away. -/
  near : apart name found = 1 ∨ apart name found = 2
  /-- No bound name is nearer. -/
  nearest : ∀ other, BoundIn scopes other → apart name found ≤ apart name other
  /-- A scope binds it, and all names in the scopes before that one are further away. -/
  bound : ∃ front scope back, scopes = front ++ scope :: back ∧ scope.contains found ∧
    ∀ other, BoundIn front other → apart name found < apart name other

/-- What is listed in some of the scopes is what one of them binds. -/
theorem mem_names_iff_boundIn {scopes : List Scope} {name : String} :
    name ∈ scopes.flatMap Table.names ↔ BoundIn scopes name := by
  simp only [List.mem_flatMap, Table.mem_names, BoundIn, Table.contains]

/-- The first of the nearest names is bound in a scope before which all names are further away. So a
local name goes before a global one that is equally near. -/
theorem exists_scope_of_firstNearest {scopes : List Scope} {name found : String}
    (first : Names.FirstNearest name found (scopes.flatMap Table.names)) :
    ∃ front scope back, scopes = front ++ scope :: back ∧ scope.contains found ∧
      ∀ other, BoundIn front other → apart name found < apart name other := by
  induction scopes with
  | nil => exact absurd first.mem List.not_mem_nil
  | cons scope rest inductionHypothesis =>
    rw [List.flatMap_cons] at first
    rcases first.of_append with here | ⟨later, further⟩
    · refine ⟨[], scope, rest, rfl, (scope.mem_names found).mp here, ?_⟩
      rintro other ⟨_, ⟨⟩, _⟩
    · obtain ⟨front, inner, back, rfl, bound, furtherInFront⟩ := inductionHypothesis later
      refine ⟨scope :: front, inner, back, rfl, bound, ?_⟩
      rintro other ⟨_, member, bound⟩
      rcases List.mem_cons.mp member with rfl | member
      · exact further other ((Table.mem_names _ other).mpr bound)
      · exact furtherInFront other ⟨_, member, bound⟩

/-- Something is offered exactly if a bound name is at most two edits away. Which one is said
elsewhere. -/
theorem isSome_suggest_iff (name : String) (scopes : List Scope) :
    (Names.suggest name (scopes.flatMap Table.names)).isSome ↔
      ∃ other, BoundIn scopes other ∧ apart name other ≤ 2 := by
  rw [← Option.ne_none_iff_isSome, ne_eq, Names.suggest, Names.nearest_eq_none_iff]
  simp only [mem_names_iff_boundIn, Names.suggestionLimit, not_forall, Nat.not_lt, exists_prop]

/-- What is suggested for a name that is not bound may be offered for it. It is at least one edit
away, since it is bound and the name is not, and at most two by the limit on suggestions. -/
theorem offered_of_suggest {name found : String} {scopes : List Scope}
    (unbound : ¬BoundIn scopes name)
    (offered : Names.suggest name (scopes.flatMap Table.names) = some found) :
    Offered name scopes found := by
  have exact := Names.nearest_exact name (scopes.flatMap Table.names) Names.suggestionLimit
  rw [← Names.suggest, offered] at exact
  obtain ⟨within, first⟩ := exact
  have different : apart name found ≠ 0 := by
    intro same
    rw [Names.eq_of_apart_eq_zero same] at unbound
    exact unbound (mem_names_iff_boundIn.mp first.mem)
  have atMostTwo : apart name found ≤ 2 := within
  exact
    { near := by omega
      nearest := fun other bound => first.le other (mem_names_iff_boundIn.mpr bound)
      bound := exists_scope_of_firstNearest first }

/-! ## Look-ups -/

/-- The scopes in which a variable is sought, one after the other: the local one if there is one,
and then the global one. -/
def State.variableScopes (s : State) : List Scope :=
  s.locals.toList ++ [s.globals]

/-- The names in sight are those of the scopes in which a variable is sought, in the order in which
it is sought there. -/
theorem State.visibleNames_eq (s : State) :
    s.visibleNames = s.variableScopes.flatMap Table.names := by
  unfold visibleNames variableScopes
  cases s.locals <;> simp

/-- A look-up of a name: how its failure is worded, and where the name is sought. -/
structure LookUp where
  /-- What kind of fault it is if the name is not found. -/
  kind : Fault.Kind
  /-- What is said then, before the name. -/
  words : String
  /-- The name. -/
  name : String
  /-- Where it is sought, one scope after the other. -/
  scopes : List Scope

/-- Code that comes to look a name up, and the state in which it does. There is one case for each
place where names are looked up. -/
inductive LookUp.Reached (σ : Settings) : Code → State → LookUp → State → Prop where
  /-- To read a variable. -/
  | ref (name : String) (s : State) :
      Reached σ (.expr (.ref name)) s
        ⟨.undefinedVariable, "variable not found: ", name, s.variableScopes⟩ s
  /-- To assign to a variable, once the value is there. -/
  | set (name : String) {e : Expr} {value : Value} {s t : State}
      (evaluated : Ends σ (.expr e) s (.done value t)) :
      Reached σ (.expr (.set name e)) s
        ⟨.undefinedVariable, "variable not found: ", name, t.variableScopes⟩ t
  /-- To call a function. -/
  | call (name : String) (args : List Expr) (s : State) :
      Reached σ (.expr (.call name args)) s
        ⟨.undefinedFunction, "function not found: ", name, [s.globals]⟩ s
  /-- To read a slot, once its object is there. -/
  | slot (name : String) {e : Expr} {id : ObjectId} {s t : State}
      (evaluated : Ends σ (.expr e) s (.done (.object id) t)) :
      Reached σ (.expr (.slot e name)) s
        ⟨.undefinedSlot, "slot not found in object: ", name, [t.heap.slots id]⟩ t
  /-- To write a slot, once its object is there. -/
  | setSlot (name : String) (value : Expr) {e : Expr} {id : ObjectId} {s t : State}
      (evaluated : Ends σ (.expr e) s (.done (.object id) t)) :
      Reached σ (.expr (.setSlot e name value)) s
        ⟨.undefinedSlot, "slot not found in object: ", name, [t.heap.slots id]⟩ t
  /-- To call a method, once its object is there. -/
  | callSlot (name : String) (args : List Expr) {e : Expr} {id : ObjectId} {s t : State}
      (evaluated : Ends σ (.expr e) s (.done (.object id) t)) :
      Reached σ (.expr (.callSlot e name args)) s
        ⟨.undefinedFunction, "method not found in object: ", name, [t.heap.slots id]⟩ t

/-- A name that none of the scopes binds is found in none of them. -/
theorem get?_of_not_boundIn {scopes : List Scope} {scope : Scope} {name : String}
    (unbound : ¬BoundIn scopes name) (searched : scope ∈ scopes) : scope.get? name = none := by
  by_contra bound
  exact unbound ⟨scope, searched, Option.isSome_iff_ne_none.mpr bound⟩

/-- Reading a variable that is bound in no scope fails, with a hint taken from all names in
sight. -/
theorem State.readVariable_unbound {s : State} {name : String}
    (unbound : ¬BoundIn s.variableScopes name) :
    s.readVariable name = .error (.undefinedVariable name (Names.suggest name s.visibleNames)) := by
  have globally : s.globals.get? name = none :=
    get?_of_not_boundIn unbound (List.mem_append_right _ List.mem_cons_self)
  have locally : s.locals.bind (·.get? name) = none := by
    apply Option.bind_eq_none_iff.mpr
    intro scope present
    exact get?_of_not_boundIn unbound (List.mem_append_left _ (Option.mem_toList.mpr present))
  rw [State.readVariable, State.lookup, locally, globally]
  rfl

/-- So does assigning to one: an assignment never introduces a name. -/
theorem State.assign_unbound {s : State} {name : String} (unbound : ¬BoundIn s.variableScopes name)
    (value : Value) :
    s.assign name value =
      .error (.undefinedVariable name (Names.suggest name s.visibleNames)) := by
  have globally : s.globals.get? name = none :=
    get?_of_not_boundIn unbound (List.mem_append_right _ List.mem_cons_self)
  have locally : s.locals.filter (·.contains name) = none := by
    apply Option.filter_eq_none_iff.mpr
    intro scope present bound
    exact unbound ⟨scope, List.mem_append_left _ (Option.mem_toList.mpr present), bound⟩
  rw [State.assign, locally]
  simp [Table.contains, globally]

/-- Reading a slot that an object has not fails, with a hint taken from the names of its slots. -/
theorem readSlot_unbound {id : ObjectId} {name : String} {t : State}
    (missing : (t.heap.slots id).get? name = none) :
    Eval.readSlot id name t =
      .failed (.undefinedSlot name (Names.suggest name (t.heap.slots id).names)) t := by
  rw [Eval.readSlot, Heap.readSlot, missing]
  rfl

/-- The receiver of a slot that is an object. -/
theorem Construct.settles_receiver {σ : Settings} {e : Expr} {id : ObjectId} {s t : State}
    (evaluated : Ends σ (.expr e) s (.done (.object id) t)) (name : String) :
    Settles σ (fun run => Eval.receiver run e name) s (.done id t) :=
  settles_bind_of_done evaluated (fun _ => rfl) (by simp)

open Construct in
/-- A look-up of a name that is not bound where it is sought fails there and then, with the nearest
of the names that are bound there. -/
theorem LookUp.Reached.fails {σ : Settings} {code : Code} {s t : State} {lookUp : LookUp}
    (reached : lookUp.Reached σ code s t) (unbound : ¬BoundIn lookUp.scopes lookUp.name) :
    ∃ fault, Ends σ code s (.failed fault t) ∧ fault.kind = lookUp.kind ∧
      fault.message = lookUp.words ++ lookUp.name ++
        Names.hint (Names.suggest lookUp.name (lookUp.scopes.flatMap Table.names)) := by
  have single (scope : Scope) : [scope].flatMap Table.names = scope.names := by simp
  cases reached with
  | ref name s =>
    have missing := State.readVariable_unbound unbound
    rw [← State.visibleNames_eq]
    refine ⟨.undefinedVariable name (Names.suggest name s.visibleNames), ?_, rfl, rfl⟩
    rw [ends_iff_settles (fun _ => Eval.readVariable name) fun _ _ => rfl]
    refine (settles_failed fun _ => ?_).mpr rfl
    rw [Eval.readVariable, missing]
    rfl
  | @set name e value s t evaluated =>
    have missing := State.assign_unbound unbound value
    rw [← State.visibleNames_eq]
    refine ⟨.undefinedVariable name (Names.suggest name t.visibleNames), ?_, rfl, rfl⟩
    rw [ends_iff_settles (Eval.assign · name e) fun _ _ => rfl]
    refine settles_bind_of_done evaluated (fun _ => ?_) (by simp)
    rw [missing]
  | call name args s =>
    have missing := get?_of_not_boundIn unbound List.mem_cons_self
    rw [single]
    refine ⟨.undefinedFunction name (Names.suggest name s.globals.names), ?_, rfl, rfl⟩
    rw [ends_iff_settles (Eval.call σ · name args) fun _ _ => rfl]
    refine ⟨by simp, 0, ?_⟩
    simp only [Eval.call, State.function, missing]
  | @slot name e id s t evaluated =>
    have missing := get?_of_not_boundIn unbound List.mem_cons_self
    rw [single]
    refine ⟨.undefinedSlot name (Names.suggest name (t.heap.slots id).names), ?_, rfl, rfl⟩
    rw [ends_iff_settles (fun run => Eval.receiver run e name >>= fun id => Eval.readSlot id name)
      fun _ _ => rfl]
    refine settles_bind_of_done (settles_receiver evaluated name) (fun _ => ?_) (by simp)
    exact readSlot_unbound missing
  | @setSlot name value e id s t evaluated =>
    have missing := get?_of_not_boundIn unbound List.mem_cons_self
    rw [single]
    refine ⟨.undefinedSlot name (Names.suggest name (t.heap.slots id).names), ?_, rfl, rfl⟩
    rw [ends_iff_settles (Eval.setSlot · e name value) fun _ _ => rfl]
    refine settles_bind_of_done (settles_receiver evaluated name) (fun _ => ?_) (by simp)
    show Action.bind (Eval.readSlot id name) _ t = _
    rw [Action.bind, readSlot_unbound missing]
  | @callSlot name args e id s t evaluated =>
    have missing := get?_of_not_boundIn unbound List.mem_cons_self
    rw [single]
    refine ⟨.undefinedMethod name (Names.suggest name (t.heap.slots id).names), ?_, rfl, rfl⟩
    rw [ends_iff_settles (Eval.callSlot σ · e name args) fun _ _ => rfl]
    refine settles_bind_of_done evaluated (fun _ => ?_) (by simp)
    simp only [Eval.callMethod, Heap.method, missing]

/-- A name that is not bound where it is sought is reported, in each of the six places and in every
state, as missing of the kind that belongs to the place, in the state in which it was sought. The
report offers a name exactly if a name that is bound there is at most two edits away. What it offers
is such a name: it is one or two edits away and no other bound name is nearer, and of two equally
near ones it is in the scope that is searched first. -/
theorem missing_name_reported {σ : Settings} {code : Code} {s t : State} {lookUp : LookUp}
    (reached : lookUp.Reached σ code s t) (unbound : ¬BoundIn lookUp.scopes lookUp.name) :
    ∃ fault offered, Ends σ code s (.failed fault t) ∧ fault.kind = lookUp.kind ∧
      fault.message = lookUp.words ++ lookUp.name ++ Names.hint offered ∧
      (offered.isSome ↔ ∃ other, BoundIn lookUp.scopes other ∧ apart lookUp.name other ≤ 2) ∧
      ∀ found, offered = some found → Offered lookUp.name lookUp.scopes found := by
  obtain ⟨fault, ends, kind, message⟩ := reached.fails unbound
  exact ⟨fault, _, ends, kind, message, isSome_suggest_iff _ _,
    fun found => offered_of_suggest unbound⟩

/-- A name that is one edit away from a local and from a global name, assigned to. -/
theorem missing_name_reported_local_first :
    let zero := Binding.var (.int 0)
    let s := { State.initial .default .unlimited with
      locals := some ((Table.empty 8).insert "tab" zero)
      globals := (Table.empty 64).insert "nib" zero }
    let lookUp : LookUp := ⟨.undefinedVariable, "variable not found: ", "nab", s.variableScopes⟩
    let code := Code.expr (.set "nab" (.int 1))
    lookUp.Reached .default code s s ∧ ¬BoundIn lookUp.scopes lookUp.name ∧
      ∃ fault, Ends .default code s (.failed fault s) ∧ fault.kind = .undefinedVariable ∧
        fault.message = "variable not found: nab (did you mean `tab`?)" := by
  intro zero s lookUp code
  have bindsBoth (name : String) : BoundIn s.variableScopes name ↔ name = "tab" ∨ name = "nib" := by
    simp [BoundIn, State.variableScopes, s, Table.contains, Table.get?_insert]
  have reached : lookUp.Reached .default code s s := .set "nab" ⟨by simp, 1, rfl⟩
  have unbound : ¬BoundIn lookUp.scopes lookUp.name := by
    simp [lookUp, bindsBoth]
  obtain ⟨fault, offered, ends, kind, message, hinted, offer⟩ :=
    missing_name_reported reached unbound
  have tab : apart "nab" "tab" = 1 := Names.apart_of_distanceWithin 2 (by decide)
  have nib : apart "nab" "nib" = 1 := Names.apart_of_distanceWithin 2 (by decide)
  have near : ∃ other, BoundIn lookUp.scopes other ∧ apart lookUp.name other ≤ 2 :=
    ⟨"tab", (bindsBoth "tab").mpr (.inl rfl), by rw [tab]; decide⟩
  obtain ⟨found, rfl⟩ := Option.isSome_iff_exists.mp (hinted.mpr near)
  obtain ⟨front, scope, back, split, bound, further⟩ := (offer found rfl).bound
  have localFound : found = "tab" := by
    cases front with
    | nil =>
      obtain ⟨rfl, -⟩ := List.cons.inj split
      simpa [Table.contains, Table.get?_insert] using bound
    | cons first front =>
      obtain ⟨rfl, -⟩ := List.cons.inj split
      have nearer := further "tab" ⟨_, List.mem_cons_self, by simp [Table.contains]⟩
      have nearest := (offer found rfl).near
      simp only [lookUp] at nearer nearest
      omega
  exact ⟨reached, unbound, fault, ends, kind, by rw [message, localFound]; rfl⟩

end SlotLang
