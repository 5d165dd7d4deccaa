import DocHints.Proofs.CanonicalNames
import DocHints.Proofs.CollectedAliases

/-!
# Aliases and their stand-ins

An alias is met itself, or a stand-in tells its name only.  The alias is looked
for in the current module and in all that enclose it, a stand-in in the current
module alone, and both under the bare name at last.  So a stand-in for an alias
of an enclosing module leads where the alias leads exactly if the current module
documents the name, or no enclosing one does and the bare name is documented.
-/

namespace DocHints

/-! ## Enclosing modules -/

theorem within_iff_take {outer home : String} :
    Within outer home ↔
      ∃ n < (Text.dotted home).length, outer =
        Text.join "." ((Text.dotted home).take (n + 1)) := by
  constructor
  · rintro (rfl | ⟨rest, rfl⟩)
    · have some_part := Text.length_dotted_pos home
      refine ⟨(Text.dotted home).length - 1, by omega, ?_⟩
      rw [Nat.sub_add_cancel some_part, List.take_length, Text.join_dotted]
    · have some_part := Text.length_dotted_pos outer
      refine ⟨(Text.dotted outer).length - 1, ?_, ?_⟩
      · rw [Text.dotted_append, List.length_append]
        omega
      · rw [Nat.sub_add_cancel some_part, Text.dotted_append, List.take_left,
          Text.join_dotted]
  · rintro ⟨n, inside, rfl⟩
    have split := List.take_append_drop (n + 1) (Text.dotted home)
    cases rest : (Text.dotted home).drop (n + 1) with
    | nil =>
        rw [rest, List.append_nil] at split
        rw [split, Text.join_dotted]
        exact .inl rfl
    | cons part parts =>
        have joined : Text.join "." (Text.dotted home) =
            Text.join "." ((Text.dotted home).take (n + 1)) ++ "." ++
              Text.join "." (part :: parts) := by
          rw [← split, rest, List.take_left' (by simp; omega)]
          exact Text.join_append (by simp [Text.dotted_ne_nil]) (by simp)
        rw [Text.join_dotted] at joined
        exact .inr ⟨_, joined⟩

namespace AliasRef

theorem mem_enclosingNames {home name candidate : String} :
    candidate ∈ enclosingNames (Text.dotted home) name ↔
      ∃ outer, Within outer home ∧ candidate = outer ++ "." ++ name := by
  have joined (n : Nat) : Text.join "." ((Text.dotted home).take (n + 1) ++ [name]) =
      Text.join "." ((Text.dotted home).take (n + 1)) ++ "." ++ name := by
    rw [Text.join_append (by simp [Text.dotted_ne_nil]) (by simp)]
    simp [Text.join, String.intercalate_singleton]
  simp only [enclosingNames, List.mem_map, List.mem_reverse, List.mem_range, joined]
  constructor
  · rintro ⟨n, inside, rfl⟩
    exact ⟨_, within_iff_take.mpr ⟨n, inside, rfl⟩, rfl⟩
  · rintro ⟨outer, within, rfl⟩
    obtain ⟨n, inside, rfl⟩ := within_iff_take.mp within
    exact ⟨n, inside, rfl⟩

theorem head_enclosingNames (home name : String) :
    (enclosingNames (Text.dotted home) name).head? = some (home ++ "." ++ name) := by
  obtain ⟨n, length⟩ : ∃ n, (Text.dotted home).length = n + 1 :=
    Nat.exists_eq_add_one.mpr (Text.length_dotted_pos home)
  have whole : (Text.dotted home).take (n + 1) = Text.dotted home :=
    List.take_of_length_le (by omega)
  rw [enclosingNames, length, List.range_succ, List.reverse_append]
  simp only [List.reverse_cons, List.reverse_nil, List.nil_append,
    List.singleton_append, List.map_cons, List.head?_cons, whole]
  rw [Text.join_append (Text.dotted_ne_nil home) (by simp), Text.join_dotted]
  simp [Text.join, String.intercalate_singleton]

theorem find?_of_seen {p : String → Bool} {front extra rest : List String}
    (seen : ∀ candidate ∈ extra, candidate ∈ front) :
    (front ++ extra ++ rest).find? p = (front ++ rest).find? p := by
  rw [List.append_assoc, List.find?_append, List.find?_append, List.find?_append]
  cases found : front.find? p with
  | some candidate => rfl
  | none =>
      have none_extra : extra.find? p = none :=
        List.find?_eq_none.mpr fun candidate inside =>
          List.find?_eq_none.mp found candidate (seen candidate inside)
      rw [none_extra]
      rfl

theorem target?_of_within {registry : Registry} {options : RenderOptions} {a : AliasRef}
    {objects : List (String × String)} (known : options.objects = some objects)
    (told : a.module ≠ "") (shown : isPrivateModule a.module = false)
    (within : Within a.module options.currentModule) :
    a.target? registry options =
      ((enclosingNames (Text.dotted options.currentModule) a.name ++ [a.name]).find?
        (RenderOptions.documentsType objects)).map fun candidate =>
          ("type", candidate) := by
  have here : options.currentModule ≠ "" := by
    rcases within with same | ⟨rest, same⟩
    · exact same ▸ told
    · simp [same]
  have package : packageOf options.currentModule = packageOf a.module := by
    rcases within with same | ⟨rest, same⟩
    · rw [same]
    · rw [same, packageOf_append]
  -- The canonical name is one of the enclosing ones, so it adds no candidate.
  have canonical : a.canonicalName registry = "" ∨
      a.canonicalName registry = a.module ++ "." ++ a.name := by
    unfold canonicalName
    split
    · exact .inl rfl
    · exact .inr (by simp [shown])
  have inside : a.module ++ "." ++ a.name ∈
      enclosingNames (Text.dotted options.currentModule) a.name :=
    mem_enclosingNames.mpr ⟨a.module, within, rfl⟩
  have seen : ∀ candidate ∈ (if (a.canonicalName registry).isEmpty then []
      else [a.canonicalName registry]),
      candidate ∈ enclosingNames (Text.dotted options.currentModule) a.name := by
    rcases canonical with empty | own
    · simp [empty]
    · simp [own, inside]
  unfold target?
  simp only [known, here, String.isEmpty_iff, if_false] at seen ⊢
  rw [find?_of_seen seen]
  cases List.find? (RenderOptions.documentsType objects)
      (enclosingNames (Text.dotted options.currentModule) a.name ++ [a.name]) with
  | some candidate => rfl
  | none =>
      have home : (Text.dotted (a.canonicalName registry)).headD "" =
          (Text.dotted options.currentModule).headD "" ∨
            a.canonicalName registry = "" := by
        rcases canonical with empty | own
        · exact .inr empty
        · left
          change packageOf _ = packageOf _
          rw [own, packageOf_append, package]
      rcases home with same | empty
      · rw [same, bne_self_eq_false, Bool.and_false]
        rfl
      · simp [empty]

end AliasRef

/-! ## What is rendered -/

namespace Scene

def LeavesToRules (scene : Scene) (v : Value) : Prop :=
  ∀ formatter, scene.options.formatter = some formatter → formatter.answer v = .ok none

variable {scene : Scene} {a : AliasRef} {name : String} {crossref : Option Bool}

theorem render_of_reference {reference : String}
    (left : scene.LeavesToRules (.typeAlias a))
    (refers : a.reference? scene.registry scene.options = some reference) :
    scene.render (.typeAlias a) = .ok reference := by
  apply render_of_text
  unfold plan Plan.ofValue
  cases asked : scene.options.formatter with
  | none => simp only [refers]
  | some formatter => simp only [left formatter asked, refers]

theorem render_standIn (left : scene.LeavesToRules (.aliasName name crossref)) :
    scene.render (.aliasName name crossref) =
      .ok (Plan.aliasNameText scene.options name crossref) := by
  apply render_of_text
  unfold plan Plan.ofValue
  cases asked : scene.options.formatter with
  | none => rfl
  | some formatter => simp only [left formatter asked]

/-- An alias of a public module, seen from that module or from below it. -/
structure SeesAlias (scene : Scene) (table : ObjectTable) (a : AliasRef) : Prop where
  known : scene.options.objects = some table.entries
  told : a.module ≠ ""
  shown : isPrivateModule a.module = false
  within : Within a.module scene.options.currentModule
  unformatted : scene.LeavesToRules (.typeAlias a)
  unformatted_name : ∀ crossref, scene.LeavesToRules (.aliasName a.name crossref)

namespace SeesAlias

variable {table : ObjectTable} (sees : scene.SeesAlias table a)

include sees

theorem render_alias {target : String}
    (found : (AliasRef.enclosingNames (Text.dotted scene.options.currentModule)
      a.name ++ [a.name]).find? (RenderOptions.documentsType table.entries) = some target) :
    scene.render (.typeAlias a) = .ok (typeReference scene.options target) := by
  apply render_of_reference sees.unformatted
  rw [AliasRef.reference?,
    AliasRef.target?_of_within sees.known sees.told sees.shown sees.within, found]
  rfl

theorem render_alias_here
    (documented : table.Documents (scene.options.currentModule ++ "." ++ a.name)) :
    scene.render (.typeAlias a) =
      .ok (typeReference scene.options
        (scene.options.currentModule ++ "." ++ a.name)) := by
  apply sees.render_alias
  have first := AliasRef.head_enclosingNames scene.options.currentModule a.name
  obtain ⟨rest, split⟩ := List.head?_eq_some_iff.mp first
  rw [split, List.cons_append,
    List.find?_cons_of_pos (ObjectTable.documentsType_iff.mpr documented)]

theorem render_alias_outside {outer : String}
    (within : Within outer scene.options.currentModule)
    (documented : table.Documents (outer ++ "." ++ a.name)) :
    ∃ nearest, Within nearest scene.options.currentModule ∧
      table.Documents (nearest ++ "." ++ a.name) ∧
      scene.render (.typeAlias a) =
        .ok (typeReference scene.options (nearest ++ "." ++ a.name)) := by
  cases found : (AliasRef.enclosingNames (Text.dotted scene.options.currentModule)
    a.name).find? (RenderOptions.documentsType table.entries) with
  | none =>
      have passed := List.find?_eq_none.mp found _
        (AliasRef.mem_enclosingNames.mpr ⟨outer, within, rfl⟩)
      exact absurd (ObjectTable.documentsType_iff.mpr documented) passed
  | some target =>
      obtain ⟨nearest, near, rfl⟩ :=
        AliasRef.mem_enclosingNames.mp (List.mem_of_find?_eq_some found)
      refine ⟨nearest, near,
        ObjectTable.documentsType_iff.mp (List.find?_some found), ?_⟩
      apply sees.render_alias
      rw [List.find?_append, found]
      rfl

theorem render_alias_bare (documented : table.Documents a.name)
    (nowhere : ∀ outer, Within outer scene.options.currentModule →
      ¬ table.Documents (outer ++ "." ++ a.name)) :
    scene.render (.typeAlias a) = .ok (typeReference scene.options a.name) := by
  apply sees.render_alias
  have none_found : (AliasRef.enclosingNames
      (Text.dotted scene.options.currentModule) a.name).find?
      (RenderOptions.documentsType table.entries) = none := by
    refine List.find?_eq_none.mpr fun candidate inside found => ?_
    obtain ⟨outer, within, rfl⟩ := AliasRef.mem_enclosingNames.mp inside
    exact nowhere outer within (ObjectTable.documentsType_iff.mp found)
  rw [List.find?_append, none_found]
  simp [ObjectTable.documentsType_iff.mpr documented]

theorem render_name_here
    (documented : table.Documents (scene.options.currentModule ++ "." ++ a.name)) :
    scene.render (.aliasName a.name crossref) =
      .ok (typeReference scene.options
        (scene.options.currentModule ++ "." ++ a.name)) := by
  rw [render_standIn (sees.unformatted_name crossref)]
  simp [Plan.aliasNameText, Plan.aliasTarget?, sees.known,
    ObjectTable.documentsType_iff.mpr documented, typeReference]

theorem render_name_elsewhere
    (undocumented : ¬ table.Documents (scene.options.currentModule ++ "." ++ a.name)) :
    scene.render (.aliasName a.name crossref) =
      .ok (if table.Documents a.name ∨
        crossref = some true then typeReference scene.options a.name
        else a.name) := by
  rw [render_standIn (sees.unformatted_name crossref)]
  have missing := ObjectTable.documentsType_eq_false undocumented
  by_cases bare : table.Documents a.name
  · simp [Plan.aliasNameText, Plan.aliasTarget?, sees.known, missing, bare,
      ObjectTable.documentsType_iff.mpr bare, typeReference]
  · have missing' := ObjectTable.documentsType_eq_false bare
    by_cases asked : crossref = some true <;>
      simp [Plan.aliasNameText, Plan.aliasTarget?, sees.known, missing, missing',
        bare, asked, typeReference]

end SeesAlias

/--
Where an alias of the current module or of an enclosing one is rendered as a
reference to a documented type, a stand-in with its name is rendered as the same
reference exactly if the current module itself documents the name, or no
enclosing module does and the bare name is documented.
-/
theorem stand_in_same_target_iff {table : ObjectTable} {target : String}
    (sees : scene.SeesAlias table a) (closed : ':' ∉ a.name.toList)
    (rendered : scene.render (.typeAlias a) = .ok (typeReference scene.options target))
    (documented : table.Documents target) (crossref : Option Bool) :
    (scene.render (.aliasName a.name crossref) =
      .ok (typeReference scene.options target) ↔
      table.Documents (scene.options.currentModule ++ "." ++ a.name) ∨
        table.Documents a.name ∧ ∀ outer, Within outer scene.options.currentModule →
          ¬ table.Documents (outer ++ "." ++ a.name)) ∧
    (¬ table.Documents (scene.options.currentModule ++ "." ++ a.name) →
      scene.render (.aliasName a.name crossref) =
        .ok (if table.Documents a.name ∨ crossref = some true
          then typeReference scene.options a.name else a.name)) := by
  refine ⟨?_, sees.render_name_elsewhere⟩
  by_cases here : table.Documents (scene.options.currentModule ++ "." ++ a.name)
  · have same := (sees.render_alias_here here).symm.trans rendered
    rw [sees.render_name_here here, same]
    exact iff_of_true rfl (.inl here)
  · rw [sees.render_name_elsewhere here, Except.ok.injEq]
    have plain : a.name ≠ typeReference scene.options target := by
      intro same
      apply closed
      simp [same, typeReference]
    by_cases enclosed : ∃ outer, Within outer scene.options.currentModule ∧
        table.Documents (outer ++ "." ++ a.name)
    · obtain ⟨outer, within, known⟩ := enclosed
      obtain ⟨nearest, near, known', refers⟩ := sees.render_alias_outside within known
      have target_eq : nearest ++ "." ++ a.name = target :=
        typeReference_inj.mp (Except.ok.inj (refers.symm.trans rendered))
      have apart : a.name ≠ target := by
        intro same
        have lengths := congrArg String.length (same.trans target_eq.symm)
        have dot : ".".length = 1 := rfl
        rw [String.length_append, String.length_append] at lengths
        omega
      refine iff_of_false ?_ ?_
      · split
        · exact fun same => apart (typeReference_inj.mp same)
        · exact plain
      · rintro (known'' | ⟨-, nowhere⟩)
        · exact here known''
        · exact nowhere outer within known
    · have nowhere : ∀ outer, Within outer scene.options.currentModule →
          ¬ table.Documents (outer ++ "." ++ a.name) :=
        fun outer within known => enclosed ⟨outer, within, known⟩
      by_cases bare : table.Documents a.name
      · have same := (sees.render_alias_bare bare nowhere).symm.trans rendered
        rw [if_pos (.inl bare)]
        exact iff_of_true (Except.ok.inj same) (.inr ⟨bare, nowhere⟩)
      · -- The alias is expanded, and what it stands for is another documented type.
        have apart : a.name ≠ target := fun same => bare (same ▸ documented)
        refine iff_of_false ?_ ?_
        · split
          · exact fun same => apart (typeReference_inj.mp same)
          · exact plain
        · rintro (known | ⟨known, -⟩)
          · exact here known
          · exact bare known

def nestedTable : ObjectTable where
  entries := [("m.C.A", "type"), ("m.A", "type")]
  distinct := by decide

def outerTable : ObjectTable where
  entries := [("m.C", "class"), ("m.A", "type")]
  distinct := by decide

def inClass (table : ObjectTable) : Scene where
  options := { objects := some table.entries, currentModule := "m.C" }

def moduleAlias : AliasRef where
  key := "A"
  module := "m"
  name := "A"

theorem sees_moduleAlias (table : ObjectTable) :
    (inClass table).SeesAlias table moduleAlias where
  known := rfl
  told := by decide
  shown := by decide +kernel
  within := .inr ⟨"C", rfl⟩
  unformatted := fun _ asked => nomatch asked
  unformatted_name := fun _ _ asked => nomatch asked

theorem stand_in_same_target_iff_nested :
    (inClass nestedTable).render (.typeAlias moduleAlias) =
        .ok (typeReference (inClass nestedTable).options "m.C.A") ∧
      (inClass nestedTable).render (.aliasName "A" none) =
        .ok (typeReference (inClass nestedTable).options "m.C.A") := by
  have rendered := (sees_moduleAlias nestedTable).render_alias_here (by decide)
  refine ⟨rendered, ?_⟩
  exact (stand_in_same_target_iff (sees_moduleAlias nestedTable) (by decide)
    rendered (by decide) none).1.mpr (.inl (by decide))

/--
From the class the alias leads to the type of the module, and its stand-in leads
nowhere.
-/
theorem stand_in_misses_outer_type :
    (inClass outerTable).render (.typeAlias moduleAlias) =
        .ok (typeReference (inClass outerTable).options "m.A") ∧
      outerTable.Documents "m.A" ∧
      (inClass outerTable).render (.aliasName "A" none) = .ok "A" := by
  have sees := sees_moduleAlias outerTable
  have documented : outerTable.Documents ("m" ++ "." ++ moduleAlias.name) := by decide
  obtain ⟨nearest, near, known, rendered⟩ :=
    sees.render_alias_outside (.inr ⟨"C", rfl⟩) documented
  have target : nearest ++ "." ++ moduleAlias.name = "m.A" := by
    have only : ∀ name, outerTable.Documents name → name = "m.A" := by
      intro name listed
      simpa [ObjectTable.Documents, outerTable] using listed
    exact only _ known
  rw [target] at rendered
  exact ⟨rendered, by decide, sees.render_name_elsewhere (by decide)⟩

end Scene

end DocHints
