import DocHints.Proofs.StubMembers
import DocHints.Stub.Context

/-!
# Definitions in the branches of a stub

The imports of a stub, the definitions that are executed and the members of a
class are looked for without regard to branches.  The definition of a qualified
name is not: it is found exactly if each of its parts is defined outside of
branches, and a part inside of one hides it.
-/

namespace DocHints.Stub

open Source
open Program

/-! ## The way to a definition -/

def defines (name : String) : Stmt → Bool
  | .classDef head _ => head.name == name
  | .function head _ => head.name == name
  | _ => false

/--
A qualified name leads to a definition.  Each part of it has one definition only
among the statements that are looked at in a body, and all but the last are
classes.
-/
inductive Leads (look : List Stmt → List Stmt) :
    List String → List Stmt → Definition → Prop
  | toClass {name : String} {body inner : List Stmt} {head : ClassHead}
      (sole : (look body).filter (defines name) = [.classDef head inner]) :
      Leads look [name] body (.classDef inner)
  | toFunction {name : String} {body inner : List Stmt} {head : FunctionHead}
      (sole : (look body).filter (defines name) = [.function head inner]) :
      Leads look [name] body (.function head)
  | through {name : String} {rest : List String} {body inner : List Stmt}
      {head : ClassHead} {d : Definition}
      (sole : (look body).filter (defines name) = [.classDef head inner])
      (leads : Leads look rest inner d) : Leads look (name :: rest) body d

theorem filter_defines_sublist (name : String) (body : List Stmt) :
    (body.filter (defines name)).Sublist ((flattened body).filter (defines name)) := by
  induction body using branchSize.induct with
  | case1 => exact List.Sublist.refl _
  | case2 test inner orElse rest _ _ ih =>
      rw [flattened_branch, List.filter_append]
      exact ih.trans (List.sublist_append_right _ _)
  | case3 stmt rest plain ih =>
      rw [flattened_plain rest plain, List.filter_cons, List.filter_cons]
      split
      · exact ih.cons_cons stmt
      · exact ih

theorem filter_defines_cases {name : String} {body : List Stmt} {stmt : Stmt}
    (sole : (flattened body).filter (defines name) = [stmt]) :
    body.filter (defines name) = [stmt] ∨ body.filter (defines name) = [] := by
  have outside := filter_defines_sublist name body
  rw [sole] at outside
  rcases List.sublist_cons_iff.mp outside with within | ⟨rest, split, within⟩
  · exact .inr (List.sublist_nil.mp within)
  · rw [split, List.sublist_nil.mp within]
    exact .inl rfl

/-! ## The look-up -/

theorem findSome?_filter {α β : Type} {p : α → Bool} {f : α → Option β} {items : List α}
    (only : ∀ item ∈ items, p item = false → f item = none) :
    (items.filter p).findSome? f = items.findSome? f := by
  induction items with
  | nil => rfl
  | cons item rest ih =>
      have later := ih fun other inside => only other (.tail _ inside)
      cases kept : p item with
      | true =>
          rw [List.filter_cons_of_pos kept, List.findSome?_cons,
            List.findSome?_cons, later]
      | false =>
          rw [List.filter_cons_of_neg (by simp [kept]), List.findSome?_cons,
            only item (.head _) kept, later]

section

variable {name : String} {body : List Stmt}

theorem findDefinition?_congr {other : List Stmt} (rest : List String)
    (same : body.filter (defines name) = other.filter (defines name)) :
    findDefinition? (name :: rest) body = findDefinition? (name :: rest) other := by
  unfold findDefinition?
  congr 1
  rw [← findSome?_filter (p := defines name), same, findSome?_filter]
  all_goals
    intro stmt _ undefined
    cases stmt <;> simp_all [defines]

theorem named_of_sole {stmt : Stmt} (sole : body.filter (defines name) = [stmt]) :
    defines name stmt = true := by
  have inside : stmt ∈ body.filter (defines name) := by simp [sole]
  exact (List.mem_filter.mp inside).2

theorem findDefinition?_sole {stmt : Stmt} (rest : List String)
    (sole : body.filter (defines name) = [stmt]) :
    findDefinition? (name :: rest) body = findDefinition? (name :: rest) [stmt] := by
  apply findDefinition?_congr
  rw [sole, List.filter_cons_of_pos (named_of_sole sole), List.filter_nil]

theorem findDefinition?_class {head : ClassHead} {inner : List Stmt}
    (rest : List String) (sole : body.filter (defines name) = [.classDef head inner]) :
    findDefinition? (name :: rest) body =
      if rest.isEmpty then some (.classDef inner) else findDefinition? rest inner := by
  have named : head.name = name := eq_of_beq (named_of_sole sole)
  rw [findDefinition?_sole rest sole]
  simp [findDefinition?, named]

theorem findDefinition?_function {head : FunctionHead} {inner : List Stmt}
    (sole : body.filter (defines name) = [.function head inner]) :
    findDefinition? [name] body = some (.function head) := by
  have named : head.name = name := eq_of_beq (named_of_sole sole)
  rw [findDefinition?_sole [] sole]
  simp [findDefinition?, named]

theorem findDefinition?_absent (rest : List String)
    (absent : body.filter (defines name) = []) :
    findDefinition? (name :: rest) body = none := by
  have same : body.filter (defines name) = ([] : List Stmt).filter (defines name) :=
    absent
  rw [findDefinition?_congr rest same]
  rfl

end

theorem Leads.rest_ne_nil {look : List Stmt → List Stmt} {parts : List String}
    {body : List Stmt} {d : Definition} (leads : Leads look parts body d) :
    parts.isEmpty = false := by
  cases leads <;> rfl

theorem Leads.absent {look : List Stmt → List Stmt} {name : String} {rest : List String}
    {body : List Stmt} {d : Definition}
    (absent : (look body).filter (defines name) = []) :
    ¬ Leads look (name :: rest) body d := by
  intro leads
  cases leads <;> simp_all

/--
A definition that is reached without regard to branches is found, or hidden in
one of them.
-/
theorem findDefinition?_cases {parts : List String} {tree : List Stmt} {d : Definition}
    (leads : Leads flattened parts tree d) :
    (Leads id parts tree d ∧ findDefinition? parts tree = some d) ∨
      (¬ Leads id parts tree d ∧ findDefinition? parts tree = none) := by
  induction leads with
  | toClass sole =>
      rcases filter_defines_cases sole with outside | absent
      · exact .inl ⟨.toClass outside, findDefinition?_class [] outside⟩
      · exact .inr ⟨Leads.absent absent, findDefinition?_absent [] absent⟩
  | toFunction sole =>
      rcases filter_defines_cases sole with outside | absent
      · exact .inl ⟨.toFunction outside, findDefinition?_function outside⟩
      · exact .inr ⟨Leads.absent absent, findDefinition?_absent [] absent⟩
  | through sole leads ih =>
      rename_i name rest body inner head d
      rcases filter_defines_cases sole with outside | absent
      · have step := findDefinition?_class rest outside
        rw [leads.rest_ne_nil, if_neg Bool.false_ne_true] at step
        rw [step]
        rcases ih with ⟨reached, found⟩ | ⟨hidden, unfound⟩
        · exact .inl ⟨.through outside reached, found⟩
        · refine .inr ⟨?_, unfound⟩
          -- The class that the first part leads to is the only one, so the rest
          -- would be reached.
          intro reached
          cases reached with
          | toClass => exact absurd leads.rest_ne_nil (by simp)
          | toFunction => exact absurd leads.rest_ne_nil (by simp)
          | through other reached =>
              have same := outside.symm.trans other
              cases same
              exact hidden reached
      · exact .inr ⟨Leads.absent absent, findDefinition?_absent rest absent⟩

/-! ## The other walks -/

theorem makeImports_append (engine : Engine) (package : String) (space : Nat)
    (front rest : List Stmt) :
    makeImports engine package space (front ++ rest) =
      (do
        makeImports engine package space front
        makeImports engine package space rest) := by
  induction front with
  | nil => simp [makeImports]
  | cons stmt front ih => simp [makeImports, ih]

theorem makeImports_flattened (engine : Engine) (package : String) (space : Nat)
    (body : List Stmt) :
    makeImports engine package space (flattened body) =
      makeImports engine package space body := by
  induction body using branchSize.induct with
  | case1 => rfl
  | case2 test inner orElse rest ih_inner ih_orElse ih =>
      rw [flattened_branch, makeImports_append, makeImports_append, ih_inner,
        ih_orElse, ih]
      simp [makeImports, makeImport]
  | case3 stmt rest plain ih =>
      rw [flattened_plain rest plain, makeImports, makeImports, ih]

theorem makeDefinitions_append (engine : Engine) (space : Nat)
    (front rest : List Stmt) : makeDefinitions engine space (front ++ rest) =
      (do makeDefinitions engine space front; makeDefinitions engine space rest) := by
  induction front with
  | nil => simp [makeDefinitions]
  | cons stmt front ih => simp [makeDefinitions, ih]

theorem makeDefinitions_flattened (engine : Engine) (space : Nat) (body : List Stmt) :
    makeDefinitions engine space (flattened body) =
      makeDefinitions engine space body := by
  induction body using branchSize.induct with
  | case1 => rfl
  | case2 test inner orElse rest ih_inner ih_orElse ih =>
      rw [flattened_branch, makeDefinitions_append, makeDefinitions_append,
        ih_inner, ih_orElse, ih]
      simp [makeDefinitions, makeDefinition]
  | case3 stmt rest plain ih =>
      rw [flattened_plain rest plain, makeDefinitions, makeDefinitions, ih]

theorem flattened_flattened (body : List Stmt) :
    flattened (flattened body) = flattened body := by
  induction body using branchSize.induct with
  | case1 => rfl
  | case2 test inner orElse rest ih_inner ih_orElse ih =>
      rw [flattened_branch, flattened_append, flattened_append, ih_inner, ih_orElse, ih]
  | case3 stmt rest plain ih =>
      rw [flattened_plain rest plain, flattened_plain _ plain, ih]

theorem searchMembers_flattened (name : String) (body : List Stmt) :
    searchMembers name (flattened body).reverse = searchMembers name body.reverse := by
  simp only [searchMembers_eq, List.reverse_reverse, flattened_flattened]

/--
Imports, executed definitions and members are those of the row of statements
without branches, in every body.  A qualified name that leads to a definition in
such rows is found exactly if it leads there outside of branches; otherwise
nothing is found.
-/
theorem findDefinition?_outside_branches_iff {parts : List String} {tree : List Stmt}
    {d : Definition} (leads : Leads flattened parts tree d) :
    (findDefinition? parts tree = some d ↔ Leads id parts tree d) ∧
      (¬ Leads id parts tree d → findDefinition? parts tree = none) ∧
      ∀ (engine : Engine) (package name : String) (space : Nat) (body : List Stmt),
        makeImports engine package space (flattened body) =
          makeImports engine package space body ∧
          makeDefinitions engine space (flattened body) =
            makeDefinitions engine space body ∧
          searchMembers name (flattened body).reverse =
            searchMembers name body.reverse := by
  refine ⟨?_, ?_, ?_⟩
  · rcases findDefinition?_cases leads with ⟨reached, found⟩ | ⟨hidden, unfound⟩
    · exact ⟨fun _ => reached, fun _ => found⟩
    · rw [unfound]
      refine ⟨?_, fun reached => absurd reached hidden⟩
      intro impossible
      cases impossible
  · intro hidden
    rcases findDefinition?_cases leads with ⟨reached, -⟩ | ⟨-, unfound⟩
    · exact absurd reached hidden
    · exact unfound
  · intro engine package name space body
    exact ⟨makeImports_flattened engine package space body,
      makeDefinitions_flattened engine space body, searchMembers_flattened name body⟩

def stubFunction (name : String) : FunctionHead where
  name := name
  isAsync := false
  params := [⟨"x", .standard, some (.name "int"), none, none⟩]
  returns := some (.name "str")
  decorators := []
  typeComment := none
  span := ⟨2, 2, 2⟩

def guardedFunction : List Stmt :=
  [.branch (.constant (.bool true))
    [.function (stubFunction "f") [.expr (.constant .ellipsis)]] []]

def openClass : List Stmt :=
  [.branch (.name "new") [.classDef ⟨"Other", [], [], [], ⟨1, 1, 1⟩⟩ [.pass]]
    guardedFunction, .classDef ⟨"Outer", [], [], [], ⟨3, 3, 3⟩⟩
      (guardedFunction ++ [.function (stubFunction "g") [.pass]])]

theorem findDefinition?_outside_branches_iff_open :
    Leads flattened ["Outer", "g"] openClass (.function (stubFunction "g")) ∧
      findDefinition? ["Outer", "g"] openClass =
        some (.function (stubFunction "g")) := by
  have leads : Leads flattened ["Outer", "g"] openClass
      (.function (stubFunction "g")) :=
    .through rfl (.toFunction rfl)
  have outside : Leads id ["Outer", "g"] openClass (.function (stubFunction "g")) :=
    .through rfl (.toFunction rfl)
  exact ⟨leads, (findDefinition?_outside_branches_iff leads).1.mpr outside⟩

/--
A function inside of a branch is not found, though it is the only definition of
its name.
-/
theorem guarded_function_hidden :
    Leads flattened ["f"] guardedFunction (.function (stubFunction "f")) ∧
      findDefinition? ["f"] guardedFunction = none ∧
      (Source.readModule false "if True:\n    def f(x: int) -> str: ...\n").toOption.map
        (annotationsOf · "f") = some [] :=
  ⟨.toFunction rfl, rfl, by decide +kernel⟩

end DocHints.Stub
