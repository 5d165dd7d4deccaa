import DocHints.Proofs.Rendering
import DocHints.Proofs.TypeMapping

/-!
# Unions and the mapping to documented paths

Unions of one kind share their path, so an alias of a union among the documented
objects must not become the documented name of all of them.  The mapping leaves
out two of the three paths that unions have.  The third one, of a type or
nothing, can come into the mapping, and then every such type is shown as the
alias.
-/

namespace DocHints

/-! ## Descriptions of unions -/

namespace Value

theorem documentedArguments_ok (registry : Registry) (home : String) {name : String}
    (plain : name ≠ "Generic") (v : Value) :
    ∃ args, v.documentedArguments registry home name = .ok args := by
  have other : (name == "Generic") = false := by simpa using plain
  unfold documentedArguments
  extract_lets isNamed
  split
  · exact ⟨_, rfl⟩
  · simp only [other, Bool.false_eq_true, if_false]
    split
    · split
      · exact ⟨_, rfl⟩
      · exact ⟨_, rfl⟩
    · exact ⟨_, rfl⟩

def unionName (members : List Value) : String :=
  if isOptional members then "Optional" else "Union"

theorem documentedName_union (members : List Value) :
    documentedName "typing" (.union members) = unionName members := by
  have other : equal (.union members) Library.anyStr = false := by
    simp only [Library.anyStr, equal]
    rfl
  rw [documentedName, other]
  rfl

theorem documentedName_bars (members : List Value) :
    documentedName "types" (.bars members) = "UnionType" := by
  have other : equal (.bars members) Library.anyStr = false := by
    simp only [Library.anyStr, equal]
    rfl
  rw [documentedName, other]
  rfl

theorem describe_eq {registry : Registry} {v : Value} {home name : String}
    {args : List (Part v)} (at_home : v.documentedModule = .ok home)
    (named : v.documentedName home = name)
    (given : v.documentedArguments registry home name = .ok args) :
    v.describe registry = .ok ⟨home, name, args⟩ := by
  subst named
  simp only [describe, at_home, bind, Except.bind, given]
  rfl

theorem describe_union (registry : Registry) (members : List Value) :
    ∃ args, (Value.union members).describe registry =
      .ok ⟨"typing", unionName members, args⟩ := by
  have plain : unionName members ≠ "Generic" := by
    unfold unionName
    split <;> decide
  obtain ⟨args, given⟩ :=
    documentedArguments_ok registry "typing" plain (.union members)
  exact ⟨args, describe_eq rfl (documentedName_union members) given⟩

theorem describe_bars (registry : Registry) (members : List Value) :
    ∃ args, (Value.bars members).describe registry =
      .ok ⟨"types", "UnionType", args⟩ := by
  obtain ⟨args, given⟩ := documentedArguments_ok registry "types"
    (by decide : "UnionType" ≠ "Generic") (.bars members)
  exact ⟨args, describe_eq rfl (documentedName_bars members) given⟩

theorem documentedArguments_union (registry : Registry) (home : String) {name : String}
    (plain : name ≠ "Generic") {v : Value} {members : List Value}
    (union : v.membersOf? = some members) (several : 2 ≤ members.length) :
    v.documentedArguments registry home name = .ok v.givenArguments := by
  have other : (name == "Generic") = false := by simpa using plain
  have differs : ∀ named, identical named v = false := by
    intro named
    cases v with
    | union members => cases named <;> rfl
    | bars members => cases named <;> rfl
    | _ => cases union
  have count : v.givenArguments.length = members.length := by
    cases v <;> simp only [membersOf?, Option.some.injEq, reduceCtorEq] at union
    all_goals simp [givenArguments, partsOf, union]
  unfold documentedArguments
  cases registry.member? home name <;>
    simp only [differs, other, Bool.false_eq_true, if_false]
  all_goals
    split
    · rename_i single only
      rw [only] at count
      simp only [List.length_singleton] at count
      omega
    · rfl

theorem describe_optional (registry : Registry) {members : List Value}
    (optional : isOptional members = true) :
    (Value.union members).describe registry =
      .ok ⟨"typing", "Optional", (Value.union members).givenArguments⟩ := by
  have named : documentedName "typing" (.union members) = "Optional" := by
    rw [documentedName_union, unionName, if_pos optional]
  have two : members.length = 2 := by
    simp only [isOptional, Bool.and_eq_true, beq_iff_eq] at optional
    exact optional.1
  exact describe_eq rfl named
    (documentedArguments_union registry "typing" (by decide) rfl
      (Nat.le_of_eq two.symm))

end Value

/-! ## Plans and the mapping -/

namespace RenderOptions

def mapped (options : RenderOptions) (mapping : List (String × String)) :
    RenderOptions :=
  { options with pathMapping := mapping }

variable (options : RenderOptions) (mapping : List (String × String))

theorem mapped_pathMapping : (options.mapped mapping).pathMapping = mapping :=
  rfl

theorem mapped_fixModule (home : String) :
    (options.mapped mapping).fixModule home = options.fixModule home :=
  rfl

end RenderOptions

namespace Plan

variable {options : RenderOptions} {mapping : List (String × String)} {v : Value}

theorem ofDescription_unmapped {d : Value.Description v}
    (unmapped : options.fixModule d.module ++ "." ++ d.name ∉ mapping.map Prod.fst) :
    ofDescription (options.mapped mapping) d = ofDescription (options.mapped []) d := by
  have shown : documentedPath (options.mapped mapping) d.module d.name =
      documentedPath (options.mapped []) d.module d.name := by
    simp only [documentedPath, RenderOptions.mapped_fixModule,
      RenderOptions.mapped_pathMapping, (remap_of_not_mem unmapped).1, List.find?_nil]
  unfold ofDescription
  rw [shown]
  rfl

theorem atPath_joined {args : List (Value.Part v)} {path : String}
    (chosen : (path == "types.UnionType" || (options.barsUnion && isUnion v)) = true)
    (some_args : args ≠ []) (role mark : String) :
    atPath options args role mark path =
      .ok (.join args fun texts => Text.join " | " texts) := by
  have given : args.isEmpty = false := by simpa using some_args
  unfold atPath
  rw [if_pos chosen, given]
  rfl

theorem atPath_bars {args : List (Value.Part v)} (bars : options.barsUnion = true)
    (union : isUnion v = true) (some_args : args ≠ []) (role mark path : String) :
    atPath options args role mark path =
      .ok (.join args fun texts => Text.join " | " texts) :=
  atPath_joined (by simp [bars, union]) some_args role mark

/-- The path of a member of a module; builtin members are known without it. -/
def shownPath (module member : String) : String :=
  if module == "builtins" then member else module ++ "." ++ member

def shownAs (options : RenderOptions) (args : List (Value.Part v))
    (module member : String) : Except Failure (Plan v) :=
  atPath options args (roleOf module member)
    (options.markUnless (shownPath module member == member)) (shownPath module member)

theorem ofDescription_eq (d : Value.Description v) :
    ofDescription options d = shownAs options d.args
      (documentedPath options d.module d.name).1
        (documentedPath options d.module d.name).2 :=
  rfl

def ruledPaths : List String :=
  ["types.UnionType", "typing.NewType", "typing.Annotated", "typing.TypeVar",
   "typing.ParamSpec", "typing.Optional", "typing.Union", "typing.Callable",
   "collections.abc.Callable", "typing.Literal"]

def ruledModules : List String :=
  ["typing", "types", "collections.abc"]

theorem ruledPaths_modules {path : String} (ruled : path ∈ ruledPaths) :
    ∃ home own, path = home ++ "." ++ own ∧ '.' ∉ own.toList ∧ home ∈ ruledModules := by
  have all : ruledPaths.all (fun path => (Text.splitLast? "." path).any fun halves =>
      ruledModules.contains halves.1) = true := by decide
  obtain ⟨⟨home, own⟩, halves, inside⟩ :=
    (Option.any_eq_true ..).mp (List.all_eq_true.mp all path ruled)
  obtain ⟨path_eq, single⟩ := Text.splitLast?_dot.mp halves
  exact ⟨home, own, path_eq, single, by simpa using inside⟩

section

variable {module member : String} (unseen : '.' ∉ member.toList)
  (elsewhere : module ∉ ruledModules)

include unseen elsewhere

theorem shownPath_not_ruled : shownPath module member ∉ ruledPaths := by
  intro ruled
  obtain ⟨home, own, path_eq, single, inside⟩ := ruledPaths_modules ruled
  unfold shownPath at path_eq
  split at path_eq
  · subst path_eq
    simp at unseen
  · have halves := (Text.splitLast?_dot.mpr ⟨rfl, unseen⟩).symm.trans
      (Text.splitLast?_dot.mpr ⟨path_eq, single⟩)
    obtain ⟨rfl, -⟩ := Prod.mk.inj (Option.some.inj halves)
    exact elsewhere inside

theorem shownAs_elsewhere {args : List (Value.Part v)} (some_args : args ≠ [])
    (bars : options.barsUnion = false) :
    shownAs options args module member = .ok (.join args fun texts =>
      referenceText "class" (options.markUnless (shownPath module member == member))
        (shownPath module member) ("\\[" ++ Text.join ", " texts ++ "]")) := by
  have role : roleOf module member = "class" := by
    simp only [ruledModules, List.mem_cons, List.not_mem_nil, or_false,
      not_or] at elsewhere
    simp [roleOf, elsewhere]
  have given : args.isEmpty = false := by simpa using some_args
  have others := shownPath_not_ruled unseen elsewhere
  simp only [ruledPaths, List.mem_cons, List.not_mem_nil, or_false, not_or] at others
  obtain ⟨no_bars, no_new, no_annotated, no_variable, no_spec, no_optional,
      no_union, no_callable,
    no_abstract, no_literal⟩ := others
  unfold shownAs atPath
  extract_lets listed texts
  rw [role, if_neg (by simp [no_bars, bars]), if_neg (by simp [no_new]),
    if_neg (by simp [no_annotated]), if_neg (by simp [no_variable, no_spec]),
    if_neg (by simp [no_optional]), if_neg (by simp [no_union, no_bars]),
    if_neg (by simp [no_callable, no_abstract]), if_neg (by simp [no_literal])]
  simp only [listed, given, Bool.false_eq_true, if_false]

end

theorem byDescription_of_describe {registry : Registry}
    (union : v.membersOf?.isSome = true) {d : Value.Description v}
    (described : v.describe registry = .ok d) :
    byDescription registry options v = ofDescription options d := by
  have solid : v.isNoneType = false := by
    cases v <;> first | rfl | cases union
  simp only [byDescription, solid, Bool.false_eq_true, if_false, described]

theorem ofValue_congr {registry : Registry} {options' : RenderOptions}
    (union : v.membersOf?.isSome = true)
    (asked : options.formatter = options'.formatter)
    (same : byDescription registry options v = byDescription registry options' v) :
    ofValue registry options v = ofValue registry options' v := by
  cases v with
  | union members => simp only [ofValue, asked, same]
  | bars members => simp only [ofValue, asked, same]
  | _ => cases union

end Plan

namespace Scene

def mapped (scene : Scene) (mapping : List (String × String)) : Scene :=
  { scene with options := scene.options.mapped mapping }

variable {scene : Scene} {mapping : List (String × String)} {v : Value}

theorem render_of_join {parts : List (Value.Part v)} {finish : List String → String}
    {texts : List String} (planned : scene.plan v = .ok (.join parts finish))
    (rendered : (parts.map (·.1)).mapM (scene.renderAt (activate [] v)) = .ok texts) :
    scene.render v = .ok (finish texts) := by
  have built : scene.frame v = .ok ⟨alias? v, parts.map (·.1), [], finish⟩ := by
    simp only [frame, planned]
  rw [render_eq, renderAt_of_frame (onPath?_nil v) built, rendered]
  rfl

theorem plan_mapped {d : Value.Description v} (union : v.membersOf?.isSome = true)
    (described : v.describe scene.registry = .ok d)
    (same : Plan.ofDescription (scene.options.mapped mapping) d =
      Plan.ofDescription (scene.options.mapped []) d) :
    (scene.mapped mapping).plan v = (scene.mapped []).plan v := by
  refine Plan.ofValue_congr union rfl ?_
  exact (Plan.byDescription_of_describe union described).trans
    (same.trans (Plan.byDescription_of_describe union described).symm)

section

variable {members : List Value}

theorem plan_bars_mapped (types_kept : scene.options.fixModule "types" = "types")
    (unmapped : "types.UnionType" ∉ mapping.map Prod.fst) :
    (scene.mapped mapping).plan (.bars members) =
      (scene.mapped []).plan (.bars members) := by
  obtain ⟨args, described⟩ := Value.describe_bars scene.registry members
  refine plan_mapped rfl described (Plan.ofDescription_unmapped ?_)
  rw [types_kept]
  exact unmapped

theorem plan_union_mapped (typing_kept : scene.options.fixModule "typing" = "typing")
    (unmapped : "typing." ++ Value.unionName members ∉ mapping.map Prod.fst) :
    (scene.mapped mapping).plan (.union members) =
      (scene.mapped []).plan (.union members) := by
  obtain ⟨args, described⟩ := Value.describe_union scene.registry members
  refine plan_mapped rfl described (Plan.ofDescription_unmapped ?_)
  rw [typing_kept]
  exact unmapped

theorem givenArguments_ne_nil (optional : Value.isOptional members = true) :
    (Value.union members).givenArguments ≠ [] := by
  rintro none_given
  have empty : members = [] := by
    simpa [Value.givenArguments, Value.partsOf] using none_given
  subst empty
  cases optional

theorem plan_optional_bars (bars : scene.options.barsUnion = true)
    (optional : Value.isOptional members = true) :
    (scene.mapped mapping).plan (.union members) =
      (scene.mapped []).plan (.union members) := by
  refine plan_mapped rfl (Value.describe_optional scene.registry optional) ?_
  have some_args := givenArguments_ne_nil optional
  have shown (mapping : List (String × String)) (module member : String) :
      Plan.shownAs (scene.options.mapped mapping)
        (Value.union members).givenArguments module
        member = .ok (.join (Value.union members).givenArguments fun texts =>
          Text.join " | " texts) := by
    unfold Plan.shownAs
    exact Plan.atPath_bars bars rfl some_args _ _ _
  rw [Plan.ofDescription_eq, Plan.ofDescription_eq, shown, shown]

theorem plan_optional_remapped (rules : scene.options.formatter = none)
    (optional : Value.isOptional members = true) (mapping : List (String × String)) :
    (scene.mapped mapping).plan (.union members) =
      Plan.shownAs scene.options (Value.union members).givenArguments
        (Plan.documentedPath (scene.options.mapped mapping) "typing" "Optional").1
        (Plan.documentedPath (scene.options.mapped mapping) "typing" "Optional").2 := by
  have asked : (scene.options.mapped mapping).formatter = none := rules
  have described := Value.describe_optional scene.registry optional
  have planned : (scene.mapped mapping).plan (.union members) =
      Plan.byDescription scene.registry (scene.options.mapped mapping)
        (.union members) := by
    simp only [plan, mapped, Plan.ofValue, asked]
  rw [planned, Plan.byDescription_of_describe rfl described, Plan.ofDescription_eq]
  rfl

end

end Scene

/-! ## The paths of unions -/

theorem optional_mem_keys_iff {roles : List String} {registry : Registry}
    {inventory : Inventory} :
    "typing.Optional" ∈ (typeMappingIn roles registry inventory).map Prod.fst ↔
      "typing.Optional" ∉ inventory.entriesIn roles ∧
        ∃ name ∈ inventory.entriesIn roles, ∃ v, registry.Holds name v ∧
          v.path? = some "typing.Optional" := by
  have spelled : "typing.Optional" ∈ inventory.documentedIn roles ↔
      "typing.Optional" ∈ inventory.entriesIn roles :=
    ⟨fun inside => Inventory.entry_of_mem_documentedIn inside (by decide),
      Inventory.mem_documentedIn_of_entry⟩
  rw [mem_keys_iff, spelled]
  constructor
  · rintro ⟨undocumented, name, listed, leads⟩
    exact ⟨undocumented, name, listed, leads.found⟩
  · rintro ⟨undocumented, name, listed, found⟩
    refine ⟨undocumented, name, listed, found, by decide, by decide, ?_⟩
    rintro rfl
    exact undocumented listed

/--
No union comes under another head through the mapping, other than a type or
nothing that is not written with bars.  Those come under the documented name of
any object with the same path, unless the path itself is documented; and they
are then listed with all of their members.
-/
theorem union_heads_with_mapping {roles : List String} {registry : Registry}
    {inventory : Inventory} {mapping : List (String × String)}
    (built : typeMappingIn roles registry inventory = mapping) :
    "types.UnionType" ∉ mapping.map Prod.fst ∧ "typing.Union" ∉ mapping.map Prod.fst ∧
    ("typing.Optional" ∈ mapping.map Prod.fst ↔
      "typing.Optional" ∉ inventory.entriesIn roles ∧
        ∃ name ∈ inventory.entriesIn roles, ∃ v, registry.Holds name v ∧
          v.path? = some "typing.Optional") ∧
    ∀ (scene : Scene), scene.options.fixModule "typing" = "typing" →
      scene.options.fixModule "types" = "types" → ∀ members,
        (scene.mapped mapping).plan (.bars members) =
          (scene.mapped []).plan (.bars members) ∧
        (Value.isOptional members = false ∨ scene.options.barsUnion = true ∨
            "typing.Optional" ∉ mapping.map Prod.fst →
          (scene.mapped mapping).plan (.union members) =
            (scene.mapped []).plan (.union members)) ∧
        (Value.isOptional members = true → scene.options.barsUnion = false →
            scene.options.formatter = none → "typing.Optional" ∈ mapping.map Prod.fst →
          ∃ module member, module ++ "." ++ member ∈ inventory.entriesIn roles ∧
            '.' ∉ member.toList ∧ module ≠ "" ∧
            (scene.mapped mapping).plan (.union members) = Plan.shownAs scene.options
              (Value.union members).givenArguments module member ∧
            (module ∉ Plan.ruledModules → (scene.mapped mapping).plan (.union members) =
              .ok (.join (Value.union members).givenArguments fun texts =>
                Plan.referenceText "class"
                  (scene.options.markUnless (Plan.shownPath module member == member))
                  (Plan.shownPath module member)
                  ("\\[" ++ Text.join ", " texts ++ "]")))) := by
  subst built
  have no_bars :
      "types.UnionType" ∉ (typeMappingIn roles registry inventory).map Prod.fst := by
    intro changed
    obtain ⟨-, name, -, leads⟩ := mem_keys_iff.mp changed
    exact leads.no_bars rfl
  have no_union :
      "typing.Union" ∉ (typeMappingIn roles registry inventory).map Prod.fst := by
    intro changed
    obtain ⟨-, name, -, leads⟩ := mem_keys_iff.mp changed
    exact leads.no_union rfl
  refine ⟨no_bars, no_union, optional_mem_keys_iff, ?_⟩
  intro scene typing_kept types_kept members
  refine ⟨Scene.plan_bars_mapped types_kept no_bars, ?kept, ?remapped⟩
  case kept =>
    intro reason
    cases optional : Value.isOptional members with
    | false =>
        refine Scene.plan_union_mapped typing_kept ?_
        simpa [Value.unionName, optional] using no_union
    | true =>
        rcases reason with single | bars | unmapped
        · rw [optional] at single
          cases single
        · exact Scene.plan_optional_bars bars optional
        · refine Scene.plan_union_mapped typing_kept ?_
          simpa [Value.unionName, optional] using unmapped
  case remapped =>
    intro optional no_bar rules changed
    have planned := Scene.plan_optional_remapped rules optional
      (typeMappingIn roles registry inventory)
    have fixed : (scene.options.mapped
        (typeMappingIn roles registry inventory)).fixModule "typing" =
      "typing" := typing_kept
    obtain ⟨path_eq, divided⟩ := documentedPath_remap
      (scene.options.mapped (typeMappingIn roles registry inventory))
      (fun _ inside => dotted_of_mem inside) "typing" "Optional"
    rw [fixed] at path_eq divided
    obtain ⟨some_module, unseen⟩ := divided changed
    refine ⟨_, _, ?_, unseen, some_module, planned, fun elsewhere => ?_⟩
    · rw [path_eq]
      exact (entry_of_mem (remap_of_mem changed)).2.1
    · rw [planned]
      exact Plan.shownAs_elsewhere unseen elsewhere
        (Scene.givenArguments_ne_nil optional) no_bar

def aliasing : Registry :=
  [⟨"m", true, [("Alias", .union [.cls Library.strClass, Value.noneType])]⟩]

theorem typeMapping_aliasing :
    typeMapping aliasing [("py:data", ["m.Alias"])] =
      [("typing.Optional", "m.Alias")] := by
  decide +kernel

def barless : Scene where
  options := { barsUnion := false }

def optionalMembers : List Value :=
  [.forwardRef "X", Value.noneType]

theorem union_heads_with_mapping_aliasing :
    "typing.Optional" ∈ [("typing.Optional", "m.Alias")].map Prod.fst ∧
      (barless.mapped [("typing.Optional", "m.Alias")]).plan (.bars optionalMembers) =
        (barless.mapped []).plan (.bars optionalMembers) ∧
      ∃ module member, module ++ "." ++ member ∈ ["m.Alias"] ∧
        (barless.mapped [("typing.Optional", "m.Alias")]).plan
          (.union optionalMembers) =
          Plan.shownAs barless.options (Value.union optionalMembers).givenArguments
            module
            member := by
  obtain ⟨-, -, -, planned⟩ := union_heads_with_mapping typeMapping_aliasing
  obtain ⟨bars, -, remapped⟩ := planned barless (by decide) (by decide) optionalMembers
  obtain ⟨module, member, listed, -, -, shown, -⟩ :=
    remapped (by decide) rfl rfl (by decide)
  exact ⟨by decide, bars, module, member, listed, shown⟩

/--
An alias of a type or nothing makes up the head of another one: its members are
shown as the arguments of the alias, and the class of `none` is among them.
-/
theorem optional_alias_takes_head :
    "typing.Optional" ∈ (typeMapping aliasing [("py:data", ["m.Alias"])]).map Prod.fst ∧
      (barless.mapped (typeMapping aliasing [("py:data", ["m.Alias"])])).render
          (.union optionalMembers) =
        .ok ":py:class:`~m.Alias`\\ \\[X, :py:obj:`None`]" ∧
      (barless.mapped []).render (.union optionalMembers) =
        .ok ":py:data:`~typing.Optional`\\ \\[X]" := by
  rw [typeMapping_aliasing]
  have reference (mapping : List (String × String)) :
      (barless.mapped mapping).renderAt [] (.forwardRef "X") = .ok "X" := by
    rw [Scene.renderAt_of_frame rfl rfl]
    rfl
  have nothing (mapping : List (String × String)) :
      (barless.mapped mapping).renderAt [] Value.noneType = .ok ":py:obj:`None`" := by
    rw [Scene.renderAt_of_frame rfl rfl]
    rfl
  refine ⟨by decide, ?remapped, ?kept⟩
  case remapped =>
    have planned : (barless.mapped [("typing.Optional", "m.Alias")]).plan
        (.union optionalMembers) =
        Plan.shownAs barless.options (Value.union optionalMembers).givenArguments
          "m" "Alias" :=
      Scene.plan_optional_remapped rfl (by decide) _
    rw [Plan.shownAs_elsewhere (by decide) (by decide) (by decide) rfl] at planned
    have texts : [Value.forwardRef "X", Value.noneType].mapM
        ((barless.mapped [("typing.Optional", "m.Alias")]).renderAt []) =
          .ok ["X", ":py:obj:`None`"] := by
      rw [List.mapM_cons, reference, List.mapM_cons, nothing]
      rfl
    exact (Scene.render_of_join planned texts).trans (congrArg Except.ok (by decide))
  case kept =>
    have planned : (barless.mapped []).plan (.union optionalMembers) =
        Plan.shownAs barless.options (Value.union optionalMembers).givenArguments
          "typing" "Optional" :=
      Scene.plan_optional_remapped rfl (by decide) _
    have texts : [Value.forwardRef "X"].mapM ((barless.mapped []).renderAt []) =
        .ok ["X"] := by
      rw [List.mapM_cons, reference]
      rfl
    exact (Scene.render_of_join planned texts).trans (congrArg Except.ok (by decide))

end DocHints
