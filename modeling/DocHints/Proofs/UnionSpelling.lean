import DocHints.Proofs.RelatedValues

/-!
# The spelling of unions

A union can be made by the type vocabulary or be written with bars between its
members.  Where unions are shown with bars, both are the texts of their members
in order, the class of `none` among them.  So an annotation has the same text
however the unions are spelled that are rendered inside it.
-/

namespace DocHints

/-! ## Unions as nodes -/

namespace Value

theorem membersOf?_eq_some {v : Value} {members : List Value} :
    v.membersOf? = some members ↔ v = .union members ∨ v = .bars members := by
  cases v <;> simp [membersOf?]

theorem unattach_givenArguments {v : Value} {members : List Value}
    (union : v.membersOf? = some members) : v.givenArguments.unattach = members := by
  rcases membersOf?_eq_some.mp union with rfl | rfl <;> simp [givenArguments]

theorem eq_of_members {α : Sort*} {f : Value → α}
    (exchange : ∀ members members', f (.union members) = f (.bars members'))
    {v v' : Value} {members members' : List Value} (union : v.membersOf? = some members)
    (union' : v'.membersOf? = some members') : f v = f v' := by
  rcases membersOf?_eq_some.mp union with rfl | rfl <;>
    rcases membersOf?_eq_some.mp union' with rfl | rfl
  · exact (exchange members []).trans (exchange members' []).symm
  · exact exchange members members'
  · exact (exchange members' members).symm
  · exact (exchange [] members).symm.trans (exchange [] members')

/-! ## Values that no value tells apart -/

/-- Values that are equal to the same values, also as members of literals. -/
def Indistinct (b b' : Value) : Prop :=
  (∀ a, equal a b = equal a b') ∧ b.dataKind = b'.dataKind

section

variable {bs bs' : List Value} (alike : List.Forall₂ Indistinct bs bs')

theorem hasEqual_congr {b b' : Value} (alike : Indistinct b b') (as : List Value) :
    hasEqual as b = hasEqual as b' := by
  induction as with
  | nil => simp only [hasEqual]
  | cons a as ih => simp only [hasEqual, ih, alike.1]

theorem hasLiteral_congr {b b' : Value} (alike : Indistinct b b') (as : List Value) :
    hasLiteral as b = hasLiteral as b' := by
  induction as with
  | nil => simp only [hasLiteral]
  | cons a as ih => simp only [hasLiteral, ih, alike.1, alike.2]

include alike

theorem equalLists_congr (as : List Value) : equalLists as bs = equalLists as bs' := by
  induction alike generalizing as with
  | nil => rfl
  | cons first rest ih =>
      cases as with
      | nil => simp only [equalLists]
      | cons a as => simp only [equalLists, first.1 a, ih as]

theorem within_congr (as : List Value) : within as bs = within as bs' := by
  induction as with
  | nil => simp only [within]
  | cons a as ih =>
      simp only [within, ih, any_eq_of_forall₂ alike fun pair => pair.1 a]

theorem covers_congr (as : List Value) : covers as bs = covers as bs' := by
  simp only [covers, all_eq_of_forall₂ alike fun pair => hasEqual_congr pair as]

theorem literalsWithin_congr (as : List Value) :
    literalsWithin as bs = literalsWithin as bs' := by
  induction as with
  | nil => simp only [literalsWithin]
  | cons a as ih =>
      have any : (bs.any fun b => decide (a.dataKind = b.dataKind) && equal a b) =
          bs'.any fun b => decide (a.dataKind = b.dataKind) && equal a b := by
        refine any_eq_of_forall₂ alike fun pair => ?_
        rw [pair.1, pair.2]
      simp only [literalsWithin, ih, any]

theorem literalsCover_congr (as : List Value) :
    literalsCover as bs = literalsCover as bs' := by
  simp only [literalsCover,
    all_eq_of_forall₂ alike fun pair => hasLiteral_congr pair as]

end

theorem Indistinct.of_members {v v' : Value} {members members' : List Value}
    (union : v.membersOf? = some members) (union' : v'.membersOf? = some members')
    (alike : List.Forall₂ Indistinct members members') : Indistinct v v' := by
  have both (as : List Value) : (within as members && covers as members) =
      (within as members' && covers as members') := by
    rw [within_congr alike, covers_congr alike]
  refine ⟨fun u => ?_, eq_of_members (fun _ _ => rfl) union union'⟩
  rcases membersOf?_eq_some.mp union with rfl | rfl <;>
    rcases membersOf?_eq_some.mp union' with rfl | rfl
  all_goals
    rw [equal.eq_def, equal.eq_def]
    cases u with
    | union as => exact both as
    | bars as => exact both as
    | _ => rfl

theorem Indistinct.of_head {v v' : Value} (head : SameHead v v')
    (alike : List.Forall₂ Indistinct v.inner v'.inner) : Indistinct v v' := by
  refine ⟨fun u => ?_, by cases head <;> rfl⟩
  -- Besides the unions, each kind of value is equal only to values of its own kind.
  cases head with
  | leaf empty => rfl
  | union members members' => exact (Indistinct.of_members rfl rfl alike).1 u
  | bars members members' => exact (Indistinct.of_members rfl rfl alike).1 u
  | tuple items items' =>
      rw [equal.eq_def, equal.eq_def]
      cases u with
      | tuple as => exact equalLists_congr alike as
      | _ => rfl
  | applied head args args' =>
      rw [equal.eq_def, equal.eq_def]
      cases u with
      | applied other as =>
          exact congrArg (equal other head && ·) (equalLists_congr alike as)
      | _ => rfl
  | indexed c args args' =>
      rw [equal.eq_def, equal.eq_def]
      cases u with
      | indexed d as => exact congrArg (decide (d = c) && ·) (equalLists_congr alike as)
      | _ => rfl
  | literal values values' =>
      rw [equal.eq_def, equal.eq_def]
      cases u with
      | literal as =>
          exact congrArg₂ and (literalsWithin_congr alike as)
            (literalsCover_congr alike as)
      | _ => rfl
  | annotated metadata kept =>
      rw [equal.eq_def, equal.eq_def]
      cases u with
      | annotated other marks =>
          exact congrArg (· && equalLists marks metadata)
            ((List.forall₂_cons.mp alike).1.1 other)
      | _ => rfl
  | newType home name base base' =>
      rw [equal.eq_def, equal.eq_def]
      cases u with
      | newType module own other =>
          exact congrArg (decide (module = home) && decide (own = name) && ·)
            ((List.forall₂_cons.mp alike).1.1 other)
      | _ => rfl
  | typeVar x constraints constraints' bounded =>
      rw [equal.eq_def, equal.eq_def]
      cases u <;> rfl
  | paramSpec x bounded =>
      rw [equal.eq_def, equal.eq_def]
      cases u <;> rfl

end Value

namespace Scene

section

variable {scene : Scene} (bars : scene.options.barsUnion = true)
  (rules : scene.options.formatter = none)
  (types_kept : scene.options.fixModule "types" = "types")
  (unmapped : "types.UnionType" ∉ scene.options.pathMapping.map Prod.fst)

include bars rules types_kept unmapped

theorem plan_of_members {v : Value} {members : List Value}
    (union : v.membersOf? = some members) (several : 2 ≤ members.length) :
    scene.plan v = .ok (.join v.givenArguments fun texts => Text.join " | " texts) := by
  have some_args : v.givenArguments ≠ [] := by
    intro none_given
    have count := congrArg List.length (Value.unattach_givenArguments union)
    rw [none_given, List.unattach_nil, List.length_nil] at count
    omega
  have joined {home name : String}
      (described : v.describe scene.registry = .ok ⟨home, name, v.givenArguments⟩)
      (chosen : (Plan.shownPath (Plan.documentedPath scene.options home name).1
        (Plan.documentedPath scene.options home name).2 == "types.UnionType" ||
          (scene.options.barsUnion && Plan.isUnion v)) = true) :
      Plan.byDescription scene.registry scene.options v =
        .ok (.join v.givenArguments fun texts => Text.join " | " texts) := by
    rw [Plan.byDescription_of_describe (by rw [union]; rfl) described,
      Plan.ofDescription_eq]
    exact Plan.atPath_joined chosen some_args _ _
  have planned : scene.plan v = Plan.byDescription scene.registry scene.options v := by
    rcases Value.membersOf?_eq_some.mp union with rfl | rfl
        <;> simp only [plan, Plan.ofValue, rules]
  rw [planned]
  rcases Value.membersOf?_eq_some.mp union with rfl | rfl
  · have plain : Value.unionName members ≠ "Generic" := by
      unfold Value.unionName
      split <;> decide
    refine joined (Value.describe_eq rfl (Value.documentedName_union members)
      (Value.documentedArguments_union _ _ plain union several)) ?_
    simp [bars, Plan.isUnion]
  · have shown : Plan.documentedPath scene.options "types" "UnionType" =
        ("types", "UnionType") := by
      have none_found : scene.options.pathMapping.find?
          (·.1 == "types" ++ "." ++ "UnionType") =
        none := (remap_of_not_mem unmapped).1
      simp only [Plan.documentedPath, types_kept, none_found]
    refine joined (Value.describe_eq rfl (Value.documentedName_bars members)
      (Value.documentedArguments_union _ _ (by decide) union several)) ?_
    rw [shown]
    rfl

end

/-! ## Other spellings -/

/--
Types that differ in the spelling of unions inside them.  A union is given by
its members in order; other types keep their heads, and are changed only if the
types inside them are rendered.
-/
inductive Respelled (scene : Scene) : Value → Value → Prop
  | same (v : Value) : Respelled scene v v
  | union {v v' : Value} {members members' : List Value}
      (union : v.membersOf? = some members)
      (union' : v'.membersOf? = some members') (several : 2 ≤ members.length)
      (length : members.length = members'.length)
      (each : ∀ pair ∈ members.zip members', Respelled scene pair.1 pair.2) :
      Respelled scene v v'
  | node {v v' : Value} (head : Value.SameHead v v')
      (rendered : Plan.rendersParts scene.registry scene.options v = true)
      (length : v.inner.length = v'.inner.length)
      (each : ∀ pair ∈ v.inner.zip v'.inner, Respelled scene pair.1 pair.2) :
      Respelled scene v v'

theorem forall₂_of_zip {Related : Value → Value → Prop} {xs ys : List Value}
    (length : xs.length = ys.length)
    (each : ∀ pair ∈ xs.zip ys, Related pair.1 pair.2) :
    List.Forall₂ Related xs ys :=
  List.forall₂_iff_zip.mpr ⟨length, fun inside => each _ inside⟩

namespace Respelled

variable {scene : Scene} {v v' : Value}

theorem indistinct (respelled : scene.Respelled v v') : Value.Indistinct v v' := by
  induction respelled with
  | same v => exact ⟨fun _ => rfl, rfl⟩
  | union union union' several length each ih =>
      exact .of_members union union' (forall₂_of_zip length ih)
  | node head rendered length each ih => exact .of_head head (forall₂_of_zip length ih)

theorem alias?_eq (respelled : scene.Respelled v v') : alias? v = alias? v' := by
  cases respelled with
  | same => rfl
  | union union union' several length each =>
      exact Value.eq_of_members (fun _ _ => rfl) union union'
  | node head rendered length each => cases head <;> rfl

theorem home?_eq (respelled : scene.Respelled v v')
    (kept : Plan.isUnion v = Plan.isUnion v') : v.home? = v'.home? := by
  induction respelled with
  | same v => rfl
  | union union union' several length each ih =>
      rcases Value.membersOf?_eq_some.mp union with rfl | rfl <;>
        rcases Value.membersOf?_eq_some.mp union' with rfl | rfl
            <;> first | rfl | cases kept
  | node head rendered length each ih =>
      cases head with
      | @annotated base base' metadata operands =>
          exact ih (base, base') (List.mem_singleton_self _) operands
      | _ => rfl

theorem allVariables_parallel (respelled : scene.Respelled v v') :
    List.Forall₂ (Value.SameVariable scene.Respelled) v.allVariables
      v'.allVariables := by
  induction respelled with
  | same v => exact List.forall₂_same.mpr fun x _ => ⟨.same x, fun _ => rfl⟩
  | union union union' several length each ih =>
      rcases Value.membersOf?_eq_some.mp union with rfl | rfl <;>
        rcases Value.membersOf?_eq_some.mp union' with rfl | rfl <;>
        exact Value.variablesOf_parallel (forall₂_of_zip length ih)
  | @node v v' head rendered length each ih =>
      have itself : scene.Respelled v v' := .node head rendered length each
      cases head with
      | leaf empty => exact List.forall₂_same.mpr fun x _ => ⟨.same x, fun _ => rfl⟩
      | applied head args args' =>
          exact Value.variablesOf_parallel (forall₂_of_zip length ih)
      | indexed c args args' =>
          exact Value.variablesOf_parallel (forall₂_of_zip length ih)
      | union members members' =>
          exact Value.variablesOf_parallel (forall₂_of_zip length ih)
      | bars members members' =>
          exact Value.variablesOf_parallel (forall₂_of_zip length ih)
      | @annotated base base' metadata kept =>
          exact ih (base, base') (List.mem_singleton_self _)
      | typeVar x constraints constraints' bounded =>
          refine .cons ⟨itself, fun u => ?_⟩ .nil
          rw [Value.equal.eq_def, Value.equal.eq_def]
          cases u <;> rfl
      | paramSpec x bounded =>
          refine .cons ⟨itself, fun u => ?_⟩ .nil
          rw [Value.equal.eq_def, Value.equal.eq_def]
          cases u <;> rfl
      | _ => exact .nil

theorem compatible (scene : Scene) : Value.Compatible scene.Respelled where
  isNoneType respelled := by
    cases respelled with
    | same => rfl
    | union union union' several length each =>
        exact Value.eq_of_members (fun _ _ => rfl) union union'
    | node head rendered length each => exact head.isNoneType_eq
  isEmptyTuple respelled := by
    cases respelled with
    | same => rfl
    | union union union' several length each =>
        exact Value.eq_of_members (fun _ _ => rfl) union union'
    | node head rendered length each =>
        cases head with
        | tuple items items' =>
            cases items <;> cases items' <;> first | rfl | cases length
        | _ => rfl
  isEllipsis respelled := by
    cases respelled with
    | same => rfl
    | union union union' several length each =>
        exact Iff.of_eq
          (Value.eq_of_members (f := fun p => p = .ellipsis) (by simp) union union')
    | node head rendered length each => cases head <;> simp
  home := home?_eq
  equal_left respelled := respelled.indistinct.1
  allVariables := allVariables_parallel

end Respelled

/-- Tables in which the same aliases stand for respelled values. -/
abbrev TablesRespelled (scene : Scene) (table table' : AliasTable) : Prop :=
  List.Forall₂ (fun entry entry' => entry.1 = entry'.1 ∧
    scene.Respelled entry.2 entry'.2) table table'

theorem TablesRespelled.value? {scene : Scene} {table table' : AliasTable}
    (tables : scene.TablesRespelled table table') (key : String) :
    Option.Rel scene.Respelled (table.value? key) (table'.value? key) := by
  induction tables with
  | nil => exact .none
  | @cons entry entry' rest rest' first others ih =>
      unfold AliasTable.value? at ih ⊢
      rw [List.find?_cons, List.find?_cons, ← first.1]
      cases entry.1 == key with
      | true => exact .some first.2
      | false => exact ih

section

variable {scene : Scene} (bars : scene.options.barsUnion = true)
  (rules : scene.options.formatter = none)
  (types_kept : scene.options.fixModule "types" = "types")
  (unmapped : "types.UnionType" ∉ scene.options.pathMapping.map Prod.fst)

include bars rules types_kept unmapped

theorem plan_respelled {v v' : Value} (respelled : scene.Respelled v v') :
    Paired (Plan.Parallel scene.Respelled) (scene.plan v) (scene.plan v') := by
  have compatible := Respelled.compatible scene
  cases respelled with
  | same =>
      have parts : List.Forall₂ scene.Respelled v.inner v.inner :=
        List.forall₂_same.mpr fun part _ => .same part
      exact Plan.ofValue_parallel compatible (.refl v) parts _ _ rules (.inr rfl)
  | @union _ _ members members' union union' several length each =>
      rw [plan_of_members bars rules types_kept unmapped union several,
        plan_of_members bars rules types_kept unmapped union' (by omega)]
      refine .result (.join (Value.forall₂_unattach.mp ?_) rfl)
      rw [Value.unattach_givenArguments union, Value.unattach_givenArguments union']
      exact forall₂_of_zip length each
  | node head rendered length each =>
      exact Plan.ofValue_parallel compatible head (forall₂_of_zip length each) _ _ rules
        (.inl rendered)

theorem renderAt_of_members (path : List AliasRef) {u : Value} {members : List Value}
    (union : u.membersOf? = some members) (several : 2 ≤ members.length) :
    scene.renderAt path u =
      (members.mapM (scene.renderAt path)).map fun texts => Text.join " | " texts := by
  have planned := plan_of_members bars rules types_kept unmapped union several
  have other : alias? u = alias? (.bars members) :=
    Value.eq_of_members (fun _ _ => rfl) union rfl
  have unmet : onPath? path u = none := by
    rw [onPath?_eq_bind, other]
    rfl
  have built : scene.frame u = .ok ⟨alias? u, u.givenArguments.unattach, [],
      fun texts => Text.join " | " texts⟩ := by
    simp only [frame, planned]
    rfl
  rw [renderAt_of_frame unmet built, Value.unattach_givenArguments union, activate,
    other]
  rfl

end

/--
Where unions are shown with bars, an annotation has the same text in every
spelling of the unions inside it and inside the values of aliases.  Each of them
is the texts of all its members, joined by bars in order.
-/
theorem render_respelled {scene : Scene} {table : AliasTable} {v v' : Value}
    (bars : scene.options.barsUnion = true) (rules : scene.options.formatter = none)
    (types_kept : scene.options.fixModule "types" = "types")
    (unmapped : "types.UnionType" ∉ scene.options.pathMapping.map Prod.fst)
    (tables : scene.TablesRespelled scene.aliases table)
    (respelled : scene.Respelled v v') :
    (scene.withAliases table).render v' = scene.render v ∧
      ∀ path u members, u.membersOf? = some members → 2 ≤ members.length →
        scene.renderAt path u =
          (members.mapM (scene.renderAt path)).map fun texts =>
            Text.join " | " texts := by
  have simulation : scene.Simulation table scene.Respelled :=
    { alias? := Respelled.alias?_eq
      plan := plan_respelled bars rules types_kept unmapped
      value := fun _ _ => tables.value? _ }
  refine ⟨?_, fun path u members union several =>
    renderAt_of_members bars rules types_kept unmapped path union several⟩
  rw [render_eq, render_eq]
  exact simulation.renderAt [] respelled

def tupleOf (union : List Value → Value) : Value :=
  .tuple [union [.typeAlias crossingLeft, .forwardRef "Y"]]

def optionalAlias (union : List Value → Value) : Scene where
  aliases := [("A", union optionalMembers)]

theorem respelled_bars (scene : Scene) {members : List Value}
    (several : 2 ≤ members.length) :
    scene.Respelled (.union members) (.bars members) := by
  refine .union rfl rfl several rfl fun pair inside => ?_
  have each : List.Forall₂ scene.Respelled members members :=
    List.forall₂_same.mpr fun member _ => .same member
  exact (List.forall₂_iff_zip.mp each).2 inside

/--
The class of `none` is shown among the members, from the alias on up to the
whole tuple.
-/
theorem render_respelled_tupleOf :
    ((optionalAlias .union).withAliases (optionalAlias .bars).aliases).render
      (tupleOf .bars) = .ok "(X | :py:obj:`None` | Y, )" := by
  have tables : (optionalAlias .union).TablesRespelled (optionalAlias .union).aliases
      (optionalAlias .bars).aliases :=
    .cons ⟨rfl, respelled_bars _ (by decide)⟩ .nil
  have respelled : (optionalAlias .union).Respelled (tupleOf .union)
      (tupleOf .bars) := by
    refine .node (.tuple _ _) rfl rfl fun pair inside => ?_
    cases List.mem_singleton.mp inside
    exact respelled_bars _ (by decide)
  obtain ⟨same, nodes⟩ :=
    render_respelled rfl rfl (by decide) (by decide) tables respelled
  have reference (path : List AliasRef) (text : String) :
      (optionalAlias .union).renderAt path (.forwardRef text) = .ok text := by
    rw [renderAt_of_frame rfl rfl]
    rfl
  have nothing : (optionalAlias .union).renderAt [crossingLeft] Value.noneType =
      .ok ":py:obj:`None`" := by
    rw [renderAt_of_frame rfl rfl]
    rfl
  have expansion : (optionalAlias .union).renderAt [crossingLeft]
      (.union optionalMembers) = .ok "X | :py:obj:`None`" := by
    rw [nodes _ _ optionalMembers rfl (by decide), optionalMembers, List.mapM_cons,
      reference, List.mapM_cons, nothing]
    rfl
  have left : (optionalAlias .union).renderAt [] (.typeAlias crossingLeft) =
      .ok "X | :py:obj:`None`" := by
    rw [renderAt_of_frame rfl rfl]
    change Except.map _ ([Value.union optionalMembers].mapM
      ((optionalAlias .union).renderAt [crossingLeft])) = _
    rw [List.mapM_cons, expansion]
    rfl
  have whole : (optionalAlias .union).renderAt []
      (.union [.typeAlias crossingLeft, .forwardRef "Y"]) =
        .ok "X | :py:obj:`None` | Y" := by
    rw [nodes _ _ _ rfl (by decide), List.mapM_cons, left, List.mapM_cons, reference]
    rfl
  rw [same, render_eq, renderAt_of_frame rfl rfl]
  change Except.map _ ([Value.union [.typeAlias crossingLeft, .forwardRef "Y"]].mapM
    ((optionalAlias .union).renderAt [])) = _
  rw [List.mapM_cons, whole]
  rfl

end Scene

end DocHints
