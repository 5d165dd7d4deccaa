import DocHints.Document.Aliases
import DocHints.Proofs.Cutting
import DocHints.Proofs.Rendering
import Mathlib.Data.List.Nodup

/-!
# References to collected aliases

The documented types at or below a module are collected under the last parts of
their names.  A name that is met in an annotation is then looked for in the
module itself and as it is.  It leads back to the type that it was collected
from exactly if that is a member of the module, or has a single part that no
member of the module hides.  A type that lies deeper is replaced by another one
of its short name, or the reference leads nowhere.
-/

namespace DocHints

/-- The documented objects with their kinds, each under a name of its own. -/
structure ObjectTable where
  entries : List (String × String)
  distinct : (entries.map Prod.fst).Nodup

namespace ObjectTable

def Documents (table : ObjectTable) (name : String) : Prop :=
  (name, "type") ∈ table.entries

def Collected (table : ObjectTable) (home path : String) : Prop :=
  table.Documents path ∧ (Text.startsWith (home ++ ".") path = true ∨ path = home)

def IsMember (home path : String) : Prop :=
  ∃ short : String, '.' ∉ short.toList ∧ path = home ++ "." ++ short

theorem isMember_iff {home path : String} :
    IsMember home path ↔ path = home ++ "." ++ Text.lastPart path := by
  constructor
  · rintro ⟨short, undotted, rfl⟩
    rw [Text.lastPart_dot undotted]
  · exact fun parts => ⟨_, Text.undotted_lastPart path, parts⟩

instance (table : ObjectTable) (name : String) : Decidable (table.Documents name) :=
  inferInstanceAs (Decidable ((name, "type") ∈ table.entries))

instance (table : ObjectTable) (home path : String) :
    Decidable (table.Collected home path) :=
  inferInstanceAs (Decidable (_ ∧ _))

theorem documentsType_iff {table : ObjectTable} {name : String} :
    RenderOptions.documentsType table.entries name = true ↔ table.Documents name := by
  unfold RenderOptions.documentsType Documents
  constructor
  · intro documented
    cases found : table.entries.find? (·.1 == name) with
    | none => simp [found] at documented
    | some entry =>
        have named : entry.1 = name := by simpa using List.find?_some found
        have kind : entry.2 = "type" := by simpa [found] using documented
        rw [← named, ← kind]
        exact List.mem_of_find?_eq_some found
  · intro listed
    cases found : table.entries.find? (·.1 == name) with
    | none => simpa using List.find?_eq_none.mp found _ listed
    | some entry =>
        have named : entry.1 = name := by simpa using List.find?_some found
        have same :=
          List.inj_on_of_nodup_map table.distinct (List.mem_of_find?_eq_some found)
            listed named
        simp [same]

theorem documentsType_eq_false {table : ObjectTable} {name : String}
    (undocumented : ¬ table.Documents name) :
    RenderOptions.documentsType table.entries name = false :=
  Bool.eq_false_iff.mpr fun found => undocumented (documentsType_iff.mp found)

end ObjectTable

/-! ## Collected names -/

namespace Document

open Program

def collectedName (path : String) : String × Value :=
  (Text.lastPart path, documentedAlias (Text.lastPart path))

theorem collect_of_collected {table : ObjectTable} {home path : String}
    (collected : table.Collected home path) (names : Names) :
    collect home names (path, "type") =
      names.put (Text.lastPart path) (documentedAlias (Text.lastPart path)) := by
  rw [collect, if_pos]
  simpa using collected.2

theorem collect_keeps {home path : String} {names : Names} (entry : String × String)
    (inside : collectedName path ∈ names) :
    collectedName path ∈ collect home names entry := by
  rw [collect]
  split
  · rcases Entries.mem_put_of_mem (Text.lastPart entry.1)
        (documentedAlias (Text.lastPart entry.1))
      inside with kept | same
    · exact kept
    · have own : collectedName path =
          (Text.lastPart entry.1, documentedAlias (Text.lastPart entry.1)) := by
        rw [← same]
        rfl
      rw [own]
      exact Entries.mem_put_self _ _ _
  · exact inside

variable {table : ObjectTable} {home : String}

theorem mem_aliasesBelow {path : String} (collected : table.Collected home path) :
    collectedName path ∈ aliasesBelow home table.entries := by
  obtain ⟨before, after, split⟩ := List.append_of_mem collected.1
  rw [aliasesBelow, split, List.foldl_append, List.foldl_cons,
    collect_of_collected collected]
  apply List.foldlRecOn after (collect home)
  · exact Entries.mem_put_self _ _ _
  · intro names inside entry _
    exact collect_keeps entry inside

theorem collected_of_mem :
    ∀ entry ∈ aliasesBelow home table.entries,
      ∃ path, table.Collected home path ∧ entry = collectedName path := by
  rw [aliasesBelow]
  refine List.foldlRecOn
    (motive := fun names : Names => ∀ entry ∈ names,
      ∃ path, table.Collected home path ∧ entry = collectedName path)
    table.entries (collect home) ?_ ?_
  · simp
  · intro names known object listed entry inside
    rw [collect] at inside
    split at inside
    · rename_i passes
      simp only [Bool.and_eq_true, beq_iff_eq, Bool.or_eq_true] at passes
      rcases Entries.mem_of_mem_put inside with rfl | earlier
      · refine ⟨object.1, ⟨?_, passes.2⟩, rfl⟩
        rw [ObjectTable.Documents, ← passes.1]
        exact listed
      · exact known entry earlier
    · exact known entry inside

end Document

/-! ## References -/

def typeReference (options : RenderOptions) (target : String) : String :=
  ":py:type:`" ++ options.shortMark ++ target ++ "`"

theorem typeReference_inj {options : RenderOptions} {first second : String} :
    typeReference options first = typeReference options second ↔ first = second := by
  simp [typeReference, ← String.toList_inj]

def Scene.documenting (scene : Scene) (home : String) (table : ObjectTable) :
    Scene where
  options := { scene.options with
    formatter := none
    objects := some table.entries
    currentModule := home }
  registry := scene.registry
  aliases := scene.aliases

namespace Scene

open Document (documentedAlias)

variable (scene : Scene) {home : String} {table : ObjectTable} {name : String}

theorem render_documentedAlias {target : String}
    (leads : Plan.aliasTarget? (scene.documenting home table).options name (some true) =
      some target) :
    (scene.documenting home table).render (documentedAlias name) =
      .ok (typeReference scene.options target) := by
  apply render_of_text
  change Except.ok
    (Plan.text (Plan.aliasNameText (scene.documenting home table).options name
    (some true))) = _
  rw [Plan.aliasNameText, leads]
  rfl

theorem render_of_member (documented : table.Documents (home ++ "." ++ name)) :
    (scene.documenting home table).render (documentedAlias name) =
      .ok (typeReference scene.options (home ++ "." ++ name)) := by
  apply render_documentedAlias
  have found := ObjectTable.documentsType_iff.mpr documented
  simp [Plan.aliasTarget?, documenting, found]

theorem render_of_no_member (undocumented : ¬ table.Documents (home ++ "." ++ name)) :
    (scene.documenting home table).render (documentedAlias name) =
      .ok (typeReference scene.options name) := by
  apply render_documentedAlias
  have missing := ObjectTable.documentsType_eq_false undocumented
  cases own : RenderOptions.documentsType table.entries name <;>
    simp [Plan.aliasTarget?, documenting, missing, own]

/--
Every collected name is a reference.  It leads back to the type that it was
collected from exactly if that is a member of the module, or has a single part
that no member hides.  It leads to a documented type exactly if the module has a
documented member of that name or the name itself is documented.
-/
theorem collected_name_leads_back_iff (home : String) (table : ObjectTable) :
    (∀ entry ∈ Document.aliasesBelow home table.entries,
      ∃ path, table.Collected home path ∧ entry = Document.collectedName path) ∧
    ∀ path, table.Collected home path →
      Document.collectedName path ∈ Document.aliasesBelow home table.entries ∧
      ∃ target,
        (scene.documenting home table).render (Document.collectedName path).2 =
          .ok (typeReference scene.options target) ∧
        (target = path ↔ ObjectTable.IsMember home path ∨
          '.' ∉ path.toList ∧ ¬ table.Documents (home ++ "." ++ path)) ∧
        (table.Documents target ↔
          table.Documents (home ++ "." ++ Text.lastPart path) ∨
            table.Documents (Text.lastPart path)) := by
  refine ⟨Document.collected_of_mem, ?_⟩
  intro path collected
  refine ⟨Document.mem_aliasesBelow collected, ?_⟩
  rw [ObjectTable.isMember_iff, ← Text.lastPart_eq_self_iff]
  by_cases member : table.Documents (home ++ "." ++ Text.lastPart path)
  · refine ⟨_, scene.render_of_member member, ?_, ?_⟩
    · constructor
      · exact fun same => .inl same.symm
      · rintro (direct | ⟨single, unhidden⟩)
        · exact direct.symm
        · rw [single] at member
          exact absurd member unhidden
    · exact ⟨.inl, fun _ => member⟩
  · refine ⟨_, scene.render_of_no_member member, ?_, ?_⟩
    · constructor
      · intro same
        rw [same] at member
        exact .inr ⟨same, member⟩
      · rintro (direct | ⟨single, -⟩)
        · rw [← direct] at member
          exact absurd collected.1 member
        · exact single
    · exact ⟨.inr, fun documented => documented.resolve_left member⟩

def submoduleTable : ObjectTable where
  entries := [("m.Alias", "type"), ("m.f", "function"), ("m.sub.Alias", "type"),
    ("m.sub.Deep", "type")]
  distinct := by decide

/-- The type of the submodule is replaced by the one of the module. -/
theorem collected_name_leads_back_iff_replaced :
    submoduleTable.Collected "m" "m.sub.Alias" ∧
      ∃ target,
        (Scene.documenting {} "m" submoduleTable).render (documentedAlias "Alias") =
          .ok (typeReference {} target) ∧
        target ≠ "m.sub.Alias" ∧ submoduleTable.Documents target := by
  have collected : submoduleTable.Collected "m" "m.sub.Alias" := by decide +kernel
  obtain ⟨-, target, rendered, same_iff, documented_iff⟩ :=
    (collected_name_leads_back_iff {} "m" submoduleTable).2 _ collected
  refine ⟨collected, target, rendered, ?_, ?_⟩
  · rw [Ne, same_iff, ObjectTable.isMember_iff]
    decide +kernel
  · rw [documented_iff]
    decide +kernel

/--
The other type of the submodule is collected, and the reference under its short
name leads to no documented type.
-/
theorem nested_type_dangles :
    ("Deep", documentedAlias "Deep") ∈ Document.aliasesBelow "m"
      submoduleTable.entries ∧
      ∀ target, submoduleTable.Documents target →
        (Scene.documenting {} "m" submoduleTable).render (documentedAlias "Deep") ≠
          .ok (typeReference {} target) := by
  have collected : submoduleTable.Collected "m" "m.sub.Deep" := by decide +kernel
  refine ⟨Document.mem_aliasesBelow collected, ?_⟩
  intro target documented same
  rw [render_of_no_member {} (by decide)] at same
  rw [← typeReference_inj.mp (Except.ok.inj same)] at documented
  revert documented
  decide

end Scene

end DocHints
