import SlotLang.Program.Basic

/-!
# Sequences up to association

A sequence of three statements can nest in two ways. Two terms are the same up to association if
they can be made equal by turning the one nesting into the other, at any place inside them. Every
term has a form in which sequences nest to the right throughout. Two terms are the same up to
association exactly if this form is the same.
-/

namespace SlotLang

/-- A term of any of the four kinds. -/
inductive Term where
  | expr (e : Expr)
  | member (member : Member)
  | stmt (s : Stmt)
  | routine (routine : Routine)

/-- Terms that differ at most in how sequences nest, at any place inside them. -/
inductive Term.Reassociates : Term → Term → Prop where
  | refl (t : Term) : Reassociates t t
  | symm {t u : Term} (same : Reassociates t u) : Reassociates u t
  | trans {t u v : Term} (first : Reassociates t u) (second : Reassociates u v) : Reassociates t v
  /-- The two ways in which three statements in sequence nest. -/
  | rotate (a b c : Stmt) :
      Reassociates (.stmt (.seq (.seq a b) c)) (.stmt (.seq a (.seq b c)))
  | printf (format : String) {pairs : List (Expr × Expr)}
      (args : ∀ pair ∈ pairs, Reassociates (.expr pair.1) (.expr pair.2)) :
      Reassociates (.expr (.printf format (pairs.map Prod.fst)))
        (.expr (.printf format (pairs.map Prod.snd)))
  | array {length length' init init' : Expr} (lengths : Reassociates (.expr length) (.expr length'))
      (inits : Reassociates (.expr init) (.expr init')) :
      Reassociates (.expr (.array length init)) (.expr (.array length' init'))
  | object {parent parent' : Expr} {pairs : List (Member × Member)}
      (parents : Reassociates (.expr parent) (.expr parent'))
      (members : ∀ pair ∈ pairs, Reassociates (.member pair.1) (.member pair.2)) :
      Reassociates (.expr (.object parent (pairs.map Prod.fst)))
        (.expr (.object parent' (pairs.map Prod.snd)))
  | slot {e e' : Expr} (name : String) (receivers : Reassociates (.expr e) (.expr e')) :
      Reassociates (.expr (.slot e name)) (.expr (.slot e' name))
  | setSlot {e e' value value' : Expr} (name : String)
      (receivers : Reassociates (.expr e) (.expr e'))
      (values : Reassociates (.expr value) (.expr value')) :
      Reassociates (.expr (.setSlot e name value)) (.expr (.setSlot e' name value'))
  | callSlot {e e' : Expr} (name : String) {pairs : List (Expr × Expr)}
      (receivers : Reassociates (.expr e) (.expr e'))
      (args : ∀ pair ∈ pairs, Reassociates (.expr pair.1) (.expr pair.2)) :
      Reassociates (.expr (.callSlot e name (pairs.map Prod.fst)))
        (.expr (.callSlot e' name (pairs.map Prod.snd)))
  | call (name : String) {pairs : List (Expr × Expr)}
      (args : ∀ pair ∈ pairs, Reassociates (.expr pair.1) (.expr pair.2)) :
      Reassociates (.expr (.call name (pairs.map Prod.fst)))
        (.expr (.call name (pairs.map Prod.snd)))
  | set (name : String) {value value' : Expr}
      (values : Reassociates (.expr value) (.expr value')) :
      Reassociates (.expr (.set name value)) (.expr (.set name value'))
  | cond {pred pred' : Expr} {conseq conseq' alt alt' : Stmt}
      (preds : Reassociates (.expr pred) (.expr pred'))
      (conseqs : Reassociates (.stmt conseq) (.stmt conseq'))
      (alts : Reassociates (.stmt alt) (.stmt alt')) :
      Reassociates (.expr (.cond pred conseq alt)) (.expr (.cond pred' conseq' alt'))
  | loop {pred pred' : Expr} {body body' : Stmt} (preds : Reassociates (.expr pred) (.expr pred'))
      (bodies : Reassociates (.stmt body) (.stmt body')) :
      Reassociates (.expr (.loop pred body)) (.expr (.loop pred' body'))
  | slotVar (name : String) {init init' : Expr} (inits : Reassociates (.expr init) (.expr init')) :
      Reassociates (.member (.var name init)) (.member (.var name init'))
  | method {routine routine' : Routine}
      (routines : Reassociates (.routine routine) (.routine routine')) :
      Reassociates (.member (.method routine)) (.member (.method routine'))
  | var (name : String) {init init' : Expr} (inits : Reassociates (.expr init) (.expr init')) :
      Reassociates (.stmt (.var name init)) (.stmt (.var name init'))
  | fn {routine routine' : Routine}
      (routines : Reassociates (.routine routine) (.routine routine')) :
      Reassociates (.stmt (.fn routine)) (.stmt (.fn routine'))
  | seq {first first' second second' : Stmt} (firsts : Reassociates (.stmt first) (.stmt first'))
      (seconds : Reassociates (.stmt second) (.stmt second')) :
      Reassociates (.stmt (.seq first second)) (.stmt (.seq first' second'))
  | expr {e e' : Expr} (exprs : Reassociates (.expr e) (.expr e')) :
      Reassociates (.stmt (.expr e)) (.stmt (.expr e'))
  | routine (name : String) (params : List String) {body body' : Stmt}
      (bodies : Reassociates (.stmt body) (.stmt body')) :
      Reassociates (.routine ⟨name, params, body⟩) (.routine ⟨name, params, body'⟩)

/-- Programs that are the same up to association. -/
def Stmt.Reassociates (p q : Stmt) : Prop :=
  Term.Reassociates (.stmt p) (.stmt q)

/-- Routines that are the same up to association. -/
def Routine.Reassociates (routine routine' : Routine) : Prop :=
  Term.Reassociates (.routine routine) (.routine routine')

/-! ## Nesting to the right -/

mutual

/-- The expression with all sequences inside it nested to the right. -/
def Expr.rightNested : Expr → Expr
  | .int n => .int n
  | .null => .null
  | .printf format args => .printf format (Expr.rightNestedAll args)
  | .array length init => .array length.rightNested init.rightNested
  | .object parent members => .object parent.rightNested (Member.rightNestedAll members)
  | .slot e name => .slot e.rightNested name
  | .setSlot e name value => .setSlot e.rightNested name value.rightNested
  | .callSlot e name args => .callSlot e.rightNested name (Expr.rightNestedAll args)
  | .call name args => .call name (Expr.rightNestedAll args)
  | .set name value => .set name value.rightNested
  | .cond pred conseq alt => .cond pred.rightNested (.ofList conseq.steps) (.ofList alt.steps)
  | .loop pred body => .loop pred.rightNested (.ofList body.steps)
  | .ref name => .ref name

/-- Expressions with all sequences inside them nested to the right. -/
def Expr.rightNestedAll : List Expr → List Expr
  | [] => []
  | e :: rest => e.rightNested :: Expr.rightNestedAll rest

/-- The member with all sequences inside it nested to the right. -/
def Member.rightNested : Member → Member
  | .var name init => .var name init.rightNested
  | .method routine => .method routine.rightNested

/-- Members with all sequences inside them nested to the right. -/
def Member.rightNestedAll : List Member → List Member
  | [] => []
  | member :: rest => member.rightNested :: Member.rightNestedAll rest

/-- The statements that a statement runs in sequence, with all sequences inside them nested to the
right. -/
def Stmt.steps : Stmt → List Stmt
  | .var name init => [.var name init.rightNested]
  | .fn routine => [.fn routine.rightNested]
  | .seq first second => first.steps ++ second.steps
  | .expr e => [.expr e.rightNested]

/-- The routine with all sequences inside it nested to the right. -/
def Routine.rightNested : Routine → Routine
  | ⟨name, params, body⟩ => ⟨name, params, .ofList body.steps⟩

end

/-- The statement with all sequences nested to the right. -/
def Stmt.rightNested (s : Stmt) : Stmt :=
  .ofList s.steps

/-- The term with all sequences nested to the right. -/
def Term.rightNested : Term → Term
  | .expr e => .expr e.rightNested
  | .member inner => .member inner.rightNested
  | .stmt s => .stmt s.rightNested
  | .routine inner => .routine inner.rightNested

/-- Nesting all expressions of a list to the right is nesting each of them. The two are defined
together, because terms hold lists of terms. -/
theorem Expr.rightNestedAll_eq (es : List Expr) :
    Expr.rightNestedAll es = es.map Expr.rightNested := by
  induction es with
  | nil => rfl
  | cons e rest inductionHypothesis => rw [rightNestedAll, inductionHypothesis, List.map_cons]

/-- The same for the members of an object. -/
theorem Member.rightNestedAll_eq (members : List Member) :
    Member.rightNestedAll members = members.map Member.rightNested := by
  induction members with
  | nil => rfl
  | cons member rest inductionHypothesis =>
    rw [rightNestedAll, inductionHypothesis, List.map_cons]

/-! ## Statements in sequence -/

namespace Stmt

/-- The statements that a statement runs in sequence. -/
def leaves : Stmt → List Stmt
  | .var name init => [.var name init]
  | .fn routine => [.fn routine]
  | .seq first second => first.leaves ++ second.leaves
  | .expr e => [.expr e]

/-- No leaf is a sequence. -/
theorem ne_seq_of_mem_leaves {leaf first second : Stmt} :
    ∀ {s : Stmt}, leaf ∈ s.leaves → leaf ≠ .seq first second
  | .var _ _, inside | .fn _, inside | .expr _, inside => by
    rw [leaves, List.mem_singleton] at inside
    simp [inside]
  | .seq _ _, inside => by
    rw [leaves, List.mem_append] at inside
    rcases inside with inFirst | inSecond
    · exact ne_seq_of_mem_leaves inFirst
    · exact ne_seq_of_mem_leaves inSecond

/-- A statement runs one statement at least. -/
theorem leaves_ne_nil : ∀ s : Stmt, s.leaves ≠ []
  | .var _ _ | .fn _ | .expr _ => by simp [leaves]
  | .seq first second => by
    rw [leaves]
    exact List.append_ne_nil_of_left_ne_nil first.leaves_ne_nil _

/-- The steps are the leaves, each nested to the right. -/
theorem steps_eq : ∀ s : Stmt, s.steps = s.leaves.map rightNested
  | .var _ _ | .fn _ | .expr _ => by simp [leaves, steps, rightNested, ofList]
  | .seq first second => by
    rw [steps, leaves, List.map_append, first.steps_eq, second.steps_eq]

/-- So it has one step at least, and the sequence of its steps is a statement again. -/
theorem steps_ne_nil : ∀ s : Stmt, s.steps ≠ []
  | .var _ _ | .fn _ | .expr _ => by simp [steps]
  | .seq first second => by
    rw [steps]
    exact List.append_ne_nil_of_left_ne_nil first.steps_ne_nil _

/-- No step is a sequence. -/
theorem leaves_of_mem_steps {step : Stmt} : ∀ {s : Stmt}, step ∈ s.steps → step.leaves = [step]
  | .var _ _, inside | .fn _, inside | .expr _, inside => by
    rw [steps, List.mem_singleton] at inside
    subst inside
    rfl
  | .seq first second, inside => by
    rw [steps, List.mem_append] at inside
    rcases inside with inFirst | inSecond
    · exact leaves_of_mem_steps inFirst
    · exact leaves_of_mem_steps inSecond

/-- A list of statements that are no sequences is got back from the statement that runs it. -/
theorem leaves_ofList {list : List Stmt} (nonempty : list ≠ [])
    (single : ∀ s ∈ list, s.leaves = [s]) : (ofList list).leaves = list := by
  induction list with
  | nil => exact absurd rfl nonempty
  | cons first rest inductionHypothesis =>
    obtain ⟨firstSingle, restSingle⟩ := List.forall_mem_cons.mp single
    cases rest with
    | nil => exact firstSingle
    | cons second others =>
      rw [ofList, leaves, firstSingle, inductionHypothesis (List.cons_ne_nil _ _) restSingle]
      · rfl
      · exact List.cons_ne_nil _ _

/-- Nesting to the right does not change which statements are run in sequence; it changes them only
inside. -/
theorem leaves_rightNested (s : Stmt) : s.rightNested.leaves = s.steps :=
  leaves_ofList s.steps_ne_nil fun _ => leaves_of_mem_steps

/-- Statements are nested to the right alike only if they have the same steps. -/
theorem rightNested_inj {s t : Stmt} : s.rightNested = t.rightNested ↔ s.steps = t.steps := by
  constructor
  · intro same
    rw [← s.leaves_rightNested, ← t.leaves_rightNested, same]
  · intro same
    rw [rightNested, rightNested, same]

end Stmt

/-! ## Terms that are the same up to association -/

namespace Term.Reassociates

/-- Terms that are the same up to association are the same when nested to the right. -/
theorem rightNested_eq {t u : Term} (same : t.Reassociates u) : t.rightNested = u.rightNested := by
  induction same with
  | refl t => rfl
  | symm _ inductionHypothesis => exact inductionHypothesis.symm
  | trans _ _ firstHypothesis secondHypothesis => exact firstHypothesis.trans secondHypothesis
  | rotate a b c =>
    simp only [Term.rightNested, Stmt.rightNested, Stmt.steps, List.append_assoc]
  | seq _ _ firsts seconds =>
    simp only [Term.rightNested, Term.stmt.injEq, Stmt.rightNested_inj] at firsts seconds ⊢
    rw [Stmt.steps, Stmt.steps, firsts, seconds]
  | printf format _ args | call name _ args =>
    simp only [Term.rightNested, Term.expr.injEq] at args
    simp [Term.rightNested, Expr.rightNested, Expr.rightNestedAll_eq, List.map_congr_left args,
      Function.comp_def]
  | callSlot name _ _ receivers args =>
    simp only [Term.rightNested, Term.expr.injEq] at receivers args
    simp [Term.rightNested, Expr.rightNested, Expr.rightNestedAll_eq, List.map_congr_left args,
      Function.comp_def, receivers]
  | object _ _ parents members =>
    simp only [Term.rightNested, Term.expr.injEq, Term.member.injEq] at parents members
    simp [Term.rightNested, Expr.rightNested, Member.rightNestedAll_eq,
      List.map_congr_left members, Function.comp_def, parents]
  | array _ _ firsts seconds | setSlot _ _ _ firsts seconds | loop _ _ firsts seconds =>
    simp only [Term.rightNested, Term.expr.injEq, Term.stmt.injEq, Stmt.rightNested]
      at firsts seconds
    simp [Term.rightNested, Expr.rightNested, firsts, seconds]
  | cond _ _ _ preds conseqs alts =>
    simp only [Term.rightNested, Term.expr.injEq, Term.stmt.injEq, Stmt.rightNested]
      at preds conseqs alts
    simp [Term.rightNested, Expr.rightNested, preds, conseqs, alts]
  | slot _ _ parts | set _ _ parts | slotVar _ _ parts | method _ parts | var _ _ parts | fn _ parts
  | expr _ parts | routine _ _ _ parts =>
    simp only [Term.rightNested, Term.expr.injEq, Term.stmt.injEq, Term.routine.injEq,
      Stmt.rightNested] at parts
    simp [Term.rightNested, Expr.rightNested, Member.rightNested, Routine.rightNested,
      Stmt.rightNested, Stmt.steps, Stmt.ofList, parts]

end Term.Reassociates

/-- Lists that are run one after the other make one sequence. -/
theorem Stmt.reassociates_append {list others : List Stmt} (nonempty : list ≠ [])
    (othersNonempty : others ≠ []) :
    (Stmt.seq (.ofList list) (.ofList others)).Reassociates (.ofList (list ++ others)) := by
  induction list with
  | nil => exact absurd rfl nonempty
  | cons first rest inductionHypothesis =>
    cases rest with
    | nil =>
      rw [List.singleton_append, Stmt.ofList, Stmt.ofList]
      · exact .refl _
      · exact othersNonempty
    | cons second more =>
      have tail := inductionHypothesis (List.cons_ne_nil _ _)
      have nested : Stmt.ofList (first :: second :: more) =
          .seq first (.ofList (second :: more)) := rfl
      have nestedAll : Stmt.ofList (first :: second :: more ++ others) =
          .seq first (.ofList (second :: more ++ others)) := rfl
      rw [nested, nestedAll]
      exact .trans (.rotate _ _ _) (.seq (.refl _) tail)

/-- Each item of a list beside what a function makes of it. -/
theorem Term.Reassociates.exists_pairs {α : Type} (kind : α → Term) {f : α → α} {list : List α}
    (each : ∀ item ∈ list, Reassociates (kind item) (kind (f item))) :
    ∃ pairs : List (α × α), list = pairs.map Prod.fst ∧ list.map f = pairs.map Prod.snd ∧
      ∀ pair ∈ pairs, Reassociates (kind pair.1) (kind pair.2) := by
  refine ⟨list.map fun item => (item, f item), ?_, ?_, ?_⟩
  · simp [Function.comp_def]
  · simp
  · simpa using each

mutual

/-- Every expression nested to the right can be had by rotating sequences in it. The induction is
over the term, with one case for each construct. -/
theorem Expr.reassociates_rightNested :
    ∀ e : Expr, Term.Reassociates (.expr e) (.expr e.rightNested)
  | .int _ | .null | .ref _ => by
    rw [Expr.rightNested]
    exact .refl _
  | .printf format args => by
    obtain ⟨pairs, before, after, each⟩ :=
      Term.Reassociates.exists_pairs .expr (Expr.reassociates_rightNestedAll args)
    rw [Expr.rightNested, Expr.rightNestedAll_eq, after, before]
    exact .printf format each
  | .array length init => by
    rw [Expr.rightNested]
    exact .array length.reassociates_rightNested init.reassociates_rightNested
  | .object parent members => by
    obtain ⟨pairs, before, after, each⟩ :=
      Term.Reassociates.exists_pairs .member (Member.reassociates_rightNestedAll members)
    rw [Expr.rightNested, Member.rightNestedAll_eq, after, before]
    exact .object parent.reassociates_rightNested each
  | .slot e name => by
    rw [Expr.rightNested]
    exact .slot name e.reassociates_rightNested
  | .setSlot e name value => by
    rw [Expr.rightNested]
    exact .setSlot name e.reassociates_rightNested value.reassociates_rightNested
  | .callSlot e name args => by
    obtain ⟨pairs, before, after, each⟩ :=
      Term.Reassociates.exists_pairs .expr (Expr.reassociates_rightNestedAll args)
    rw [Expr.rightNested, Expr.rightNestedAll_eq, after, before]
    exact .callSlot name e.reassociates_rightNested each
  | .call name args => by
    obtain ⟨pairs, before, after, each⟩ :=
      Term.Reassociates.exists_pairs .expr (Expr.reassociates_rightNestedAll args)
    rw [Expr.rightNested, Expr.rightNestedAll_eq, after, before]
    exact .call name each
  | .set name value => by
    rw [Expr.rightNested]
    exact .set name value.reassociates_rightNested
  | .cond pred conseq alt => by
    rw [Expr.rightNested]
    exact .cond pred.reassociates_rightNested conseq.reassociates_rightNested
      alt.reassociates_rightNested
  | .loop pred body => by
    rw [Expr.rightNested]
    exact .loop pred.reassociates_rightNested body.reassociates_rightNested

/-- So can all expressions of a list. -/
theorem Expr.reassociates_rightNestedAll :
    ∀ es : List Expr, ∀ e ∈ es, Term.Reassociates (.expr e) (.expr e.rightNested)
  | [] => List.forall_mem_nil _
  | e :: rest => by
    rw [List.forall_mem_cons]
    exact ⟨e.reassociates_rightNested, Expr.reassociates_rightNestedAll rest⟩

/-- So can a member, in its initial value or in the body of its routine. -/
theorem Member.reassociates_rightNested :
    ∀ member : Member, Term.Reassociates (.member member) (.member member.rightNested)
  | .var name init => by
    rw [Member.rightNested]
    exact .slotVar name init.reassociates_rightNested
  | .method routine => by
    rw [Member.rightNested]
    exact .method routine.reassociates_rightNested

/-- So can all members of an object. -/
theorem Member.reassociates_rightNestedAll :
    ∀ members : List Member, ∀ member ∈ members,
      Term.Reassociates (.member member) (.member member.rightNested)
  | [] => List.forall_mem_nil _
  | member :: rest => by
    rw [List.forall_mem_cons]
    exact ⟨member.reassociates_rightNested, Member.reassociates_rightNestedAll rest⟩

/-- So can a statement. In the case of a sequence its two parts are nested to the right already, and
what remains is to put their lists of steps together. -/
theorem Stmt.reassociates_rightNested : ∀ s : Stmt, s.Reassociates (.ofList s.steps)
  | .var name init => by
    rw [Stmt.steps]
    exact .var name init.reassociates_rightNested
  | .fn routine => by
    rw [Stmt.steps]
    exact .fn routine.reassociates_rightNested
  | .seq first second => by
    rw [Stmt.steps]
    exact .trans (.seq first.reassociates_rightNested second.reassociates_rightNested)
      (Stmt.reassociates_append first.steps_ne_nil second.steps_ne_nil)
  | .expr e => by
    rw [Stmt.steps]
    exact .expr e.reassociates_rightNested

/-- So can a routine, in its body. -/
theorem Routine.reassociates_rightNested :
    ∀ routine : Routine, routine.Reassociates routine.rightNested
  | ⟨name, params, body⟩ => by
    rw [Routine.rightNested]
    exact .routine name params body.reassociates_rightNested

end

/-- Terms are the same up to association exactly if they are the same when nested to the right. -/
theorem Term.reassociates_iff {t u : Term} : t.Reassociates u ↔ t.rightNested = u.rightNested := by
  have nested (t : Term) : t.Reassociates t.rightNested := by
    cases t with
    | expr e => exact e.reassociates_rightNested
    | member member => exact member.reassociates_rightNested
    | stmt s => exact s.reassociates_rightNested
    | routine routine => exact routine.reassociates_rightNested
  constructor
  · exact Term.Reassociates.rightNested_eq
  · intro same
    have back : Term.Reassociates t.rightNested u := same ▸ .symm (nested u)
    exact .trans (nested t) back

/-- Statements are the same up to association exactly if they have the same steps. -/
theorem Stmt.reassociates_iff {p q : Stmt} : p.Reassociates q ↔ p.steps = q.steps := by
  rw [Stmt.Reassociates, Term.reassociates_iff, Term.rightNested, Term.rightNested,
    Term.stmt.injEq, Stmt.rightNested_inj]

/-- Routines are the same up to association exactly if they have the same name and parameters and
bodies that are. -/
theorem Routine.reassociates_iff {routine routine' : Routine} :
    routine.Reassociates routine' ↔ routine.name = routine'.name ∧
      routine.params = routine'.params ∧ routine.body.Reassociates routine'.body := by
  cases routine
  cases routine'
  simp only [Routine.Reassociates, Term.reassociates_iff, Term.rightNested, Routine.rightNested,
    Term.routine.injEq, Routine.mk.injEq, Stmt.Reassociates, Term.stmt.injEq, Stmt.rightNested]

end SlotLang
