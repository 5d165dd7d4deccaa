import DocHints.Mapping
import DocHints.Annotation.Plan
import DocHints.Proofs.Cutting

/-!
# The mapping to documented paths

The mapping is filled name by name.  An entry leads from the path of an object
to a documented name of that object, and is made only if the path itself is not
documented.  So the paths that the mapping changes and those that it gives never
meet, and every path that it gives has a module.
-/

namespace DocHints

/-! ## Documented names -/

namespace Inventory

variable {inventory : Inventory} {roles : List String}

theorem mem_spellings_self (name : String) : name ∈ spellings name := by
  unfold spellings
  split
  · split <;> simp
  · simp

theorem mem_documentedIn_of_entry {name : String}
    (listed : name ∈ inventory.entriesIn roles) :
    name ∈ inventory.documentedIn roles :=
  List.mem_flatMap.mpr ⟨name, listed, mem_spellings_self name⟩

theorem builtin_mem_documentedIn {name : String}
    (listed : name ∈ inventory.entriesIn roles) (undotted : '.' ∉ name.toList) :
    "builtins." ++ name ∈ inventory.documentedIn roles := by
  refine List.mem_flatMap.mpr ⟨name, listed, ?_⟩
  simp [spellings, Text.splitLast?_undotted undotted]

theorem entry_of_mem_documentedIn {path : String}
    (inside : path ∈ inventory.documentedIn roles)
    (elsewhere : Text.startsWith "builtins." path = false) :
    path ∈ inventory.entriesIn roles := by
  obtain ⟨name, listed, spelled⟩ := List.mem_flatMap.mp inside
  have second : path ≠ "builtins." ++ name := by
    rintro rfl
    have starts : Text.startsWith "builtins." ("builtins." ++ name) = true :=
      Text.startsWith_iff.mpr ⟨name.toList, String.toList_append⟩
    rw [starts] at elsewhere
    cases elsewhere
  have first : path = name := by
    unfold spellings at spelled
    split at spelled
    · split at spelled <;> simpa [second] using spelled
    · simpa [second] using spelled
  rw [first]
  exact listed

end Inventory

/-! ## Entries -/

/--
A dotted name leads to an object: its last part is a member of the module before
it.
-/
def Registry.Holds (registry : Registry) (name : String) (v : Value) : Prop :=
  ∃ module member, name = module ++ "." ++ member ∧ '.' ∉ member.toList ∧ module ≠ "" ∧
    registry.member? module member = some v

/-- A name of an object whose path is another one, and not that of a union. -/
structure LeadsTo (registry : Registry) (name path : String) : Prop where
  found : ∃ v, registry.Holds name v ∧ v.path? = some path
  no_bars : path ≠ "types.UnionType"
  no_union : path ≠ "typing.Union"
  renamed : path ≠ name

theorem pathOfDocumented?_eq_some {registry : Registry} {name path : String} :
    pathOfDocumented? registry name = some path ↔ LeadsTo registry name path := by
  constructor
  · intro leads
    unfold pathOfDocumented? at leads
    split at leads
    · cases leads
    · rename_i module member split_eq
      obtain ⟨name_eq, unseen⟩ := Text.splitLast?_dot.mp split_eq
      split at leads
      · cases leads
      · rename_i some_module
        split at leads
        · rename_i own path_eq
          split at leads
          · cases leads
          · rename_i others
            cases leads
            obtain ⟨v, member_eq, own_eq⟩ := Option.bind_eq_some_iff.mp path_eq
            have holds : registry.Holds name v :=
              ⟨module, member, name_eq, unseen, by simpa using some_module, member_eq⟩
            simp only [Bool.or_eq_true, beq_iff_eq, not_or] at others
            exact ⟨⟨v, holds, own_eq⟩, others.1.1, others.1.2, others.2⟩
        · cases leads
  · rintro ⟨⟨v, ⟨module, member, name_eq, unseen, some_module, member_eq⟩, own_eq⟩,
      no_bars, no_union, renamed⟩
    have split_eq := Text.splitLast?_dot.mpr ⟨name_eq, unseen⟩
    have path_eq : (registry.member? module member).bind Value.path? = some path := by
      rw [member_eq]
      exact own_eq
    simp [pathOfDocumented?, split_eq, some_module, path_eq, no_bars, no_union, renamed]

theorem addName_cases (registry : Registry) (documented : List String)
    (mapping : List (String × String)) (name : String) :
    (∃ path, LeadsTo registry name path ∧ path ∉ documented ∧
        addName registry documented mapping name = Entries.put mapping path name) ∨
      ((∀ path, LeadsTo registry name path → path ∈ documented) ∧
        addName registry documented mapping name = mapping) := by
  unfold addName
  cases leads : pathOfDocumented? registry name with
  | none =>
      refine .inr ⟨fun path leads' => ?_, rfl⟩
      rw [pathOfDocumented?_eq_some.mpr leads'] at leads
      cases leads
  | some path =>
      by_cases inside : path ∈ documented
      · refine .inr ⟨fun path' leads' => ?_, by simp [inside]⟩
        rw [pathOfDocumented?_eq_some.mpr leads'] at leads
        cases leads
        exact inside
      · exact .inl ⟨path, pathOfDocumented?_eq_some.mp leads, inside, by simp [inside]⟩

theorem mem_keys_addName {registry : Registry} {documented : List String}
    {mapping : List (String × String)} {name path : String} :
    path ∈ (addName registry documented mapping name).map Prod.fst ↔
      (path ∉ documented ∧ LeadsTo registry name path) ∨
        path ∈ mapping.map Prod.fst := by
  rcases addName_cases registry documented mapping name with
    ⟨own, leads, fresh, added⟩ | ⟨unfit, same⟩
  · have only : LeadsTo registry name path ↔ path = own := by
      constructor
      · intro leads'
        have both := (pathOfDocumented?_eq_some.mpr leads').symm.trans
          (pathOfDocumented?_eq_some.mpr leads)
        exact Option.some.inj both
      · rintro rfl
        exact leads
    rw [added, Entries.mem_keys_put, only]
    constructor
    · exact Or.imp_left fun same => ⟨same ▸ fresh, same⟩
    · exact Or.imp_left And.right
  · rw [same]
    exact (or_iff_right fun new => new.1 (unfit path new.2)).symm

section

variable {roles : List String} {registry : Registry} {inventory : Inventory}

theorem entry_of_mem {key value : String}
    (inside : (key, value) ∈ typeMappingIn roles registry inventory) :
    key ∉ inventory.documentedIn roles ∧ value ∈ inventory.entriesIn roles ∧
      LeadsTo registry value key := by
  let Sound (mapping : List (String × String)) : Prop := ∀ entry ∈ mapping,
    entry.1 ∉ inventory.documentedIn roles ∧ entry.2 ∈ inventory.entriesIn roles ∧
      LeadsTo registry entry.2 entry.1
  have sound : Sound (typeMappingIn roles registry inventory) := by
    apply List.foldlRecOn (motive := Sound)
    · simp [Sound]
    · intro mapping kept name listed entry inside
      change entry ∈ addName registry _ mapping name at inside
      rcases addName_cases registry (inventory.documentedIn roles) mapping name with
        ⟨own, leads, fresh, added⟩ | ⟨-, same⟩
      · rw [added] at inside
        rcases Entries.mem_of_mem_put inside with rfl | inside
        · exact ⟨fresh, listed, leads⟩
        · exact kept entry inside
      · rw [same] at inside
        exact kept entry inside
  exact sound _ inside

theorem dotted_of_mem {entry : String × String}
    (inside : entry ∈ typeMappingIn roles registry inventory) :
    ∃ module member, entry.2 = module ++ "." ++ member ∧ '.' ∉ member.toList ∧
      module ≠ "" := by
  obtain ⟨v, ⟨module, member, name_eq, unseen, some_module, -⟩, -⟩ :=
    (entry_of_mem inside).2.2.found
  exact ⟨module, member, name_eq, unseen, some_module⟩

theorem mem_keys_iff {path : String} :
    path ∈ (typeMappingIn roles registry inventory).map Prod.fst ↔
      path ∉ inventory.documentedIn roles ∧
        ∃ name ∈ inventory.entriesIn roles, LeadsTo registry name path := by
  have run (names : List String) (mapping : List (String × String)) :
      path ∈ (names.foldl (addName registry (inventory.documentedIn roles))
        mapping).map Prod.fst ↔
        (path ∉ inventory.documentedIn roles ∧
          ∃ name ∈ names, LeadsTo registry name path) ∨
          path ∈ mapping.map Prod.fst := by
    induction names generalizing mapping with
    | nil => simp
    | cons name names ih =>
        rw [List.foldl_cons, ih, mem_keys_addName]
        simp only [List.mem_cons, exists_eq_or_imp]
        rw [and_or_left, or_assoc, or_left_comm]
  exact (run _ []).trans (by simp)

end

/-! ## The documented path of a path -/

/--
The documented name for a path, which is the path itself where the mapping has
none.
-/
def remap (mapping : List (String × String)) (path : String) : String :=
  match mapping.find? (·.1 == path) with
  | some entry => entry.2
  | none => path

theorem remap_of_mem {mapping : List (String × String)} {path : String}
    (changed : path ∈ mapping.map Prod.fst) : (path, remap mapping path) ∈ mapping := by
  unfold remap
  cases found : mapping.find? (·.1 == path) with
  | none =>
      obtain ⟨entry, inside, rfl⟩ := List.mem_map.mp changed
      have differs := List.find?_eq_none.mp found entry inside
      simp at differs
  | some entry =>
      have same : entry.1 = path := by simpa using List.find?_some found
      have inside := List.mem_of_find?_eq_some found
      rw [← same]
      exact inside

theorem remap_of_not_mem {mapping : List (String × String)} {path : String}
    (unchanged : path ∉ mapping.map Prod.fst) :
    mapping.find? (·.1 == path) = none ∧ remap mapping path = path := by
  have none_found : mapping.find? (·.1 == path) = none := by
    refine List.find?_eq_none.mpr fun entry inside same => unchanged ?_
    rw [beq_iff_eq] at same
    exact List.mem_map.mpr ⟨entry, inside, same⟩
  exact ⟨none_found, by simp [remap, none_found]⟩

theorem remap_remap {mapping : List (String × String)}
    (apart : ∀ entry ∈ mapping, entry.2 ∉ mapping.map Prod.fst) (path : String) :
    remap mapping (remap mapping path) = remap mapping path := by
  by_cases changed : path ∈ mapping.map Prod.fst
  · exact (remap_of_not_mem (apart _ (remap_of_mem changed))).2
  · rw [(remap_of_not_mem changed).2, (remap_of_not_mem changed).2]

theorem documentedPath_remap (options : RenderOptions)
    (dotted : ∀ entry ∈ options.pathMapping, ∃ module member,
      entry.2 = module ++ "." ++ member ∧ '.' ∉ member.toList ∧ module ≠ "")
    (home name : String) :
    (Plan.documentedPath options home name).1 ++ "." ++
      (Plan.documentedPath options home name).2 =
        remap options.pathMapping (options.fixModule home ++ "." ++ name) ∧
      (options.fixModule home ++ "." ++ name ∈ options.pathMapping.map Prod.fst →
        (Plan.documentedPath options home name).1 ≠ "" ∧
          '.' ∉ (Plan.documentedPath options home name).2.toList) := by
  by_cases changed : options.fixModule home ++ "." ++
    name ∈ options.pathMapping.map Prod.fst
  · obtain ⟨module, member, target_eq, unseen, some_module⟩ :=
      dotted _ (remap_of_mem changed)
    have shown : Plan.documentedPath options home name = (module, member) := by
      cases found : options.pathMapping.find?
        (·.1 == options.fixModule home ++ "." ++ name) with
      | none =>
          obtain ⟨entry, inside, same⟩ := List.mem_map.mp changed
          exact absurd same (by simpa using List.find?_eq_none.mp found entry inside)
      | some entry =>
          have target : entry.2 = module ++ "." ++ member := by
            simpa [remap, found] using target_eq
          have solid : entry.2.isEmpty = false := by simp [target]
          have halves := Text.splitLast?_dot.mpr ⟨target, unseen⟩
          simp [Plan.documentedPath, found, solid, halves]
    rw [shown]
    exact ⟨target_eq.symm, fun _ => ⟨some_module, unseen⟩⟩
  · obtain ⟨none_found, kept⟩ := remap_of_not_mem changed
    have shown : Plan.documentedPath options home name =
        (options.fixModule home, name) := by
      simp [Plan.documentedPath, none_found]
    rw [shown, kept]
    exact ⟨rfl, fun changed' => absurd changed' changed⟩

/-! ## Stability -/

structure StableMapping (names : List String) (mapping : List (String × String)) :
    Prop where
  keys_undocumented : ∀ entry ∈ mapping, entry.1 ∉ names
  keys_no_builtin : ∀ entry ∈ mapping, ∀ name ∈ names, '.' ∉ name.toList →
    entry.1 ≠ "builtins." ++ name
  values_documented : ∀ entry ∈ mapping, entry.2 ∈ names
  values_dotted : ∀ entry ∈ mapping, ∃ module member,
    entry.2 = module ++ "." ++ member ∧ '.' ∉ member.toList ∧ module ≠ ""
  settled : ∀ path, remap mapping (remap mapping path) = remap mapping path
  documented_kept : ∀ name ∈ names, remap mapping name = name
  builtin_kept : ∀ name ∈ names, '.' ∉ name.toList →
    remap mapping ("builtins." ++ name) = "builtins." ++ name
  /--
  A value is documented under the path that is given, divided into its module
  and its name.
  -/
  divided : ∀ (options : RenderOptions) (home name : String), options.pathMapping =
    mapping →
    (Plan.documentedPath options home name).1 ++ "." ++
      (Plan.documentedPath options home name).2 =
        remap mapping (options.fixModule home ++ "." ++ name) ∧
      (options.fixModule home ++ "." ++ name ∈ mapping.map Prod.fst →
        (Plan.documentedPath options home name).1 ≠ "" ∧
          '.' ∉ (Plan.documentedPath options home name).2.toList)

/-- The mapping is stable, in whatever order the roles are visited. -/
theorem typeMappingIn_stable (roles : List String) (registry : Registry)
    (inventory : Inventory) :
    StableMapping (inventory.entriesIn roles)
      (typeMappingIn roles registry inventory) := by
  have entry_facts : ∀ entry ∈ typeMappingIn roles registry inventory,
      entry.1 ∉ inventory.documentedIn roles ∧ entry.2 ∈ inventory.entriesIn roles ∧
        LeadsTo registry entry.2 entry.1 := fun _ inside => entry_of_mem inside
  have kept : ∀ path ∈ inventory.documentedIn roles,
      path ∉ (typeMappingIn roles registry inventory).map Prod.fst :=
    fun path documented changed => (mem_keys_iff.mp changed).1 documented
  constructor
  case keys_undocumented =>
    exact fun entry inside listed =>
      (entry_facts entry inside).1 (Inventory.mem_documentedIn_of_entry listed)
  case keys_no_builtin =>
    intro entry inside name listed undotted same
    have documented := Inventory.builtin_mem_documentedIn listed undotted
    rw [← same] at documented
    exact (entry_facts entry inside).1 documented
  case values_documented => exact fun entry inside => (entry_facts entry inside).2.1
  case values_dotted => exact fun entry inside => dotted_of_mem inside
  case settled =>
    refine remap_remap fun entry inside => kept _ ?_
    exact Inventory.mem_documentedIn_of_entry (entry_facts entry inside).2.1
  case documented_kept =>
    exact fun name listed =>
      (remap_of_not_mem (kept name (Inventory.mem_documentedIn_of_entry listed))).2
  case builtin_kept =>
    exact fun name listed undotted =>
      (remap_of_not_mem (kept _ (Inventory.builtin_mem_documentedIn listed undotted))).2
  case divided =>
    intro options home name built
    have dotted : ∀ entry ∈ options.pathMapping, _ := fun entry inside =>
      dotted_of_mem (built ▸ inside)
    rw [← built]
    exact documentedPath_remap options dotted home name

def facade : Registry :=
  [⟨"pkg", true, [("Local", .cls ⟨"pkg._impl", "_Local", .declared, true⟩),
    ("Number", .cls ⟨"builtins", "int", .library, true⟩)]⟩]

theorem typeMappingIn_stable_facade :
    typeMappingIn ["py:data", "py:class"] facade
        [("py:class", ["pkg.Local", "pkg.Number", "int", "pkg.Missing"])] =
      [("pkg._impl._Local", "pkg.Local")] ∧
    remap [("pkg._impl._Local", "pkg.Local")] "pkg._impl._Local" = "pkg.Local" ∧
    StableMapping ["pkg.Local", "pkg.Number", "int", "pkg.Missing"]
      [("pkg._impl._Local", "pkg.Local")] := by
  have built : typeMappingIn ["py:data", "py:class"] facade
      [("py:class", ["pkg.Local", "pkg.Number", "int", "pkg.Missing"])] =
        [("pkg._impl._Local", "pkg.Local")] := by
    decide +kernel
  have stable := typeMappingIn_stable ["py:data", "py:class"] facade
    [("py:class", ["pkg.Local", "pkg.Number", "int", "pkg.Missing"])]
  rw [built] at stable
  exact ⟨built, by decide, stable⟩

end DocHints
