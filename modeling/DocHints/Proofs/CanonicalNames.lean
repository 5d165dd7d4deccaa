import DocHints.Annotation.Alias
import DocHints.Proofs.Sections
import Mathlib.Data.List.TakeWhile

/-!
# Canonical names of aliases

An alias of a private module is documented under the first public module that
offers it.  Modules are looked for by the letters that their names begin with,
so the search leaves the package of the alias where another package has a longer
name with the same beginning.  The canonical name is the one that the package
itself has for the alias, and lies in it, exactly if no such module comes first.
-/

namespace DocHints

/-! ## Packages -/

def packageOf (name : String) : String :=
  (Text.dotted name).headD ""

theorem head_divideFrom (chars piece : List Char) :
    (Text.divideFrom ['.'] chars 0 piece).head? =
      some (piece.reverse ++ chars.takeWhile (· != '.')) := by
  induction chars generalizing piece with
  | nil => simp [Text.divideFrom]
  | cons c rest ih =>
      by_cases dot : '.' = c
      · subst dot
        simp [Text.divideFrom, Text.dropStart?]
      · have other : (c != '.') = true := bne_iff_ne.mpr (Ne.symm dot)
        simp [Text.divideFrom, Text.dropStart?, dot, ih, other]

theorem toList_packageOf (name : String) :
    (packageOf name).toList = name.toList.takeWhile (· != '.') := by
  have first := head_divideFrom name.toList []
  rw [packageOf, Text.dotted, Text.splitAll, Text.divide, List.headD_eq_head?_getD,
    List.head?_map]
  change
    (((Text.divideFrom ['.'] name.toList 0 []).head?.map String.ofList).getD "").toList = _
  rw [first]
  simp

theorem packageOf_undotted (name : String) : '.' ∉ (packageOf name).toList := by
  rw [toList_packageOf]
  intro inside
  have passed := List.all_eq_true.mp (List.all_takeWhile (p := (· != '.'))) '.' inside
  simp at passed

theorem packageOf_append (module name : String) :
    packageOf (module ++ "." ++ name) = packageOf module := by
  apply String.toList_inj.mp
  rw [toList_packageOf, toList_packageOf]
  have chars : (module ++ "." ++ name).toList =
      module.toList ++ '.' :: name.toList := by simp
  rw [chars, (span_stops (by decide) module.toList name.toList).1]

/-- The name of a package itself or of a dotted submodule of it. -/
def Within (package name : String) : Prop :=
  name = package ∨ ∃ rest, name = package ++ "." ++ rest

theorem within_packageOf_iff {module name : String} :
    Within (packageOf module) name ↔ packageOf name = packageOf module := by
  have undotted := packageOf_undotted module
  have whole : packageOf (packageOf module) = packageOf module := by
    apply String.toList_inj.mp
    rw [toList_packageOf]
    apply List.takeWhile_eq_self_iff.mpr
    intro c inside
    have differs : c ≠ '.' := fun same => undotted (same ▸ inside)
    simpa using differs
  constructor
  · rintro (rfl | ⟨rest, rfl⟩)
    · exact whole
    · rw [packageOf_append, whole]
  · intro same
    have split : name.toList = (packageOf name).toList ++
        name.toList.dropWhile (· != '.') := by
      rw [toList_packageOf, List.takeWhile_append_dropWhile]
    rw [same] at split
    cases left : name.toList.dropWhile (· != '.') with
    | nil =>
        left
        exact String.toList_inj.mp (by simpa [left] using split)
    | cons c rest =>
        right
        have dot : c = '.' := by
          have stopped := List.head?_dropWhile_not (· != '.') name.toList
          rw [left] at stopped
          simpa using stopped
        refine ⟨String.ofList rest, String.toList_inj.mp ?_⟩
        rw [split, left, dot]
        simp

theorem startsWith_of_within {package name : String} (within : Within package name) :
    Text.startsWith package name = true := by
  rcases within with rfl | ⟨rest, rfl⟩
  · exact Text.startsWith_iff.mpr ⟨[], by simp⟩
  · exact Text.startsWith_iff.mpr ⟨'.' :: rest.toList, by simp⟩

/-! ## The first module -/

structure Registry.First (registry : Registry) (p : Loaded → Prop)
    (loaded : Loaded) : Prop where
  mem : loaded ∈ (registry : List Loaded)
  holds : p loaded
  le : ∀ other ∈ (registry : List Loaded), p other → loaded.name ≤ other.name

namespace AliasRef

theorem mem_sortedModules {registry : Registry} {loaded : Loaded} :
    loaded ∈ sortedModules registry ↔ loaded ∈ (registry : List Loaded) :=
  (List.mergeSort_perm registry _).mem_iff

theorem pairwise_sortedModules (registry : Registry) :
    (sortedModules registry).Pairwise fun a b => a.name ≤ b.name := by
  have trans : ∀ a b c : Loaded, decide (a.name ≤ b.name) = true →
      decide (b.name ≤ c.name) = true →
      decide (a.name ≤ c.name) = true := by
    intro a b c first second
    exact decide_eq_true
      (String.le_trans (of_decide_eq_true first) (of_decide_eq_true second))
  have total : ∀ a b : Loaded,
      (decide (a.name ≤ b.name) || decide (b.name ≤ a.name)) = true := by
    intro a b
    simpa using String.le_total a.name b.name
  exact (List.pairwise_mergeSort trans total registry).imp of_decide_eq_true

theorem sortedModules_of_pairwise {registry : Registry}
    (sorted : List.Pairwise (fun a b : Loaded => a.name ≤ b.name) registry) :
    sortedModules registry = registry :=
  List.mergeSort_of_pairwise (sorted.imp decide_eq_true)

theorem first_of_find? {registry : Registry} {p : Loaded → Bool} {loaded : Loaded}
    (found : (sortedModules registry).find? p = some loaded) :
    registry.First (p · = true) loaded := by
  obtain ⟨holds, before, after, split, passed⟩ := List.find?_eq_some_iff_append.mp found
  have sorted := pairwise_sortedModules registry
  rw [split, List.pairwise_append, List.pairwise_cons] at sorted
  have mem : loaded ∈ sortedModules registry := by simp [split]
  refine ⟨mem_sortedModules.mp mem, holds, ?_⟩
  intro other inside other_holds
  have listed := mem_sortedModules.mpr inside
  rw [split] at listed
  rcases List.mem_append.mp listed with earlier | later
  · have refused := passed other earlier
    simp [other_holds] at refused
  · rcases List.mem_cons.mp later with rfl | later
    · exact String.le_refl _
    · exact sorted.2.1.1 other later

/-! ## Modules that offer an alias -/

structure Offered (a : AliasRef) (loaded : Loaded) : Prop where
  genuine : loaded.genuine = true
  shown : isPrivateModule loaded.name = false
  holds : loaded.member? a.name = some (.typeAlias a)

theorem offeredBy_iff {a : AliasRef} {package : String} {loaded : Loaded} :
    a.offeredBy package loaded = true ↔
      Text.startsWith package loaded.name = true ∧ a.Offered loaded := by
  simp only [offeredBy, Bool.and_eq_true, Bool.not_eq_true']
  constructor
  · rintro ⟨⟨⟨starts, genuine⟩, shown⟩, holds⟩
    refine ⟨starts, genuine, shown, ?_⟩
    split at holds
    · rename_i other held
      rw [held, eq_of_beq holds]
    · cases holds
  · rintro ⟨starts, genuine, shown, holds⟩
    refine ⟨⟨⟨starts, genuine⟩, shown⟩, ?_⟩
    rw [holds]
    exact beq_self_eq_true a

def ownName (a : AliasRef) : String :=
  a.module ++ "." ++ a.name

def package (a : AliasRef) : String :=
  packageOf a.module

/--
The public name that a package has for an alias: its own name if its module is
public, and else the name under the first module of the package that offers it,
or its own name if there is none.
-/
inductive PublicName (registry : Registry) (a : AliasRef) : String → Prop
  | own (shown : isPrivateModule a.module = false) : PublicName registry a a.ownName
  | offered {loaded : Loaded} (hidden : isPrivateModule a.module = true)
      (first : registry.First (fun l => Within a.package l.name ∧ a.Offered l) loaded) :
      PublicName registry a (loaded.name ++ "." ++ a.name)
  | unoffered (hidden : isPrivateModule a.module = true)
      (none_offers : ∀ l ∈ (registry : List Loaded), Within a.package l.name →
        ¬ a.Offered l) :
      PublicName registry a a.ownName

/--
A module of another package that comes first among the modules that offer an
alias and whose names begin with the letters of its package.
-/
structure Intruder (registry : Registry) (a : AliasRef) (loaded : Loaded) : Prop where
  hidden : isPrivateModule a.module = true
  first : registry.First
    (fun l => Text.startsWith a.package l.name = true ∧ a.Offered l) loaded
  outside : ¬ Within a.package loaded.name

theorem within_append_iff {a : AliasRef} {module : String} :
    Within a.package (module ++ "." ++ a.name) ↔ Within a.package module := by
  rw [package, within_packageOf_iff, within_packageOf_iff, packageOf_append]

theorem within_ownName (a : AliasRef) : Within a.package a.ownName :=
  within_append_iff.mpr (within_packageOf_iff.mpr rfl)

theorem PublicName.within {registry : Registry} {a : AliasRef} {name : String}
    (known : PublicName registry a name) : Within a.package name := by
  cases known with
  | own => exact a.within_ownName
  | offered hidden first => exact within_append_iff.mpr first.holds.1
  | unoffered => exact a.within_ownName

/-! ## The canonical name -/

section

variable (registry : Registry) {a : AliasRef} (module_known : a.module ≠ "")
  (name_known : a.name ≠ "")

include module_known name_known

theorem canonicalName_of_shown (shown : isPrivateModule a.module = false) :
    a.canonicalName registry = a.ownName := by
  simp [canonicalName, module_known, name_known, shown, ownName]

/--
The first module that the search finds gives the name; without one it is the
alias's own.
-/
theorem canonicalName_of_hidden (hidden : isPrivateModule a.module = true) :
    (∃ loaded, registry.First (fun l => Text.startsWith a.package l.name = true ∧
      a.Offered l) loaded ∧
        a.canonicalName registry = loaded.name ++ "." ++ a.name) ∨
      ((∀ l ∈ (registry : List Loaded), Text.startsWith a.package l.name = true →
        ¬ a.Offered l) ∧
        a.canonicalName registry = a.ownName) := by
  have known : (a.module.isEmpty || a.name.isEmpty) = false := by
    simp [module_known, name_known]
  cases found : (sortedModules registry).find?
    (a.offeredBy ((Text.dotted a.module).headD "")) with
  | some loaded =>
      have first := first_of_find? found
      refine .inl ⟨loaded, ⟨first.mem, offeredBy_iff.mp first.holds, ?_⟩, ?_⟩
      · exact fun other inside offers =>
          first.le other inside (offeredBy_iff.mpr offers)
      · simp only [canonicalName, known, hidden, found, Bool.not_true,
          Bool.false_eq_true, if_false]
  | none =>
      refine .inr ⟨?_, ?_⟩
      · intro l inside starts offers
        have refused := List.find?_eq_none.mp found l (mem_sortedModules.mpr inside)
        exact refused (offeredBy_iff.mpr ⟨starts, offers⟩)
      · simp only [canonicalName, known, hidden, found, Bool.not_true,
          Bool.false_eq_true, if_false, ownName]

theorem canonicalName_of_intruder {loaded : Loaded}
    (intruder : Intruder registry a loaded) :
    a.canonicalName registry = loaded.name ++ "." ++ a.name := by
  rcases canonicalName_of_hidden registry module_known name_known intruder.hidden with
    ⟨found, first, name⟩ | ⟨none_offers, -⟩
  · -- Both come first, so they have one name.
    have same : found.name = loaded.name :=
      String.le_antisymm (first.le loaded intruder.first.mem intruder.first.holds)
        (intruder.first.le found first.mem first.holds)
    rw [name, same]
  · obtain ⟨starts, offers⟩ := intruder.first.holds
    exact absurd offers (none_offers loaded intruder.first.mem starts)

theorem publicName_of_no_intruder
    (none_intrudes : ∀ loaded, ¬ Intruder registry a loaded) :
    PublicName registry a (a.canonicalName registry) := by
  cases hidden : isPrivateModule a.module with
  | false =>
      rw [canonicalName_of_shown registry module_known name_known hidden]
      exact .own hidden
  | true =>
      rcases canonicalName_of_hidden registry module_known name_known hidden with
        ⟨loaded, first, name⟩ | ⟨none_offers, name⟩
      · have within : Within a.package loaded.name := by
          by_contra outside
          exact none_intrudes loaded ⟨hidden, first, outside⟩
        rw [name]
        refine .offered hidden ⟨first.mem, ⟨within, first.holds.2⟩, ?_⟩
        intro other inside offers
        exact first.le other inside ⟨startsWith_of_within offers.1, offers.2⟩
      · rw [name]
        refine .unoffered hidden ?_
        exact fun l inside within => none_offers l inside (startsWith_of_within within)

end

/--
An alias without a module or a name has no canonical name.  Any other has the
public name that its package has for it exactly if no module of another package
comes first, and only then it lies in the package; otherwise it is named under
that module.
-/
theorem canonicalName_public_iff (registry : Registry) (a : AliasRef) :
    (a.module = "" ∨ a.name = "" → a.canonicalName registry = "") ∧
      (a.module ≠ "" → a.name ≠ "" →
        (PublicName registry a (a.canonicalName registry) ↔
          ∀ l, ¬ Intruder registry a l) ∧
          (Within a.package (a.canonicalName registry) ↔ ∀ l, ¬ Intruder registry a l) ∧
          ∀ l, Intruder registry a l →
            a.canonicalName registry = l.name ++ "." ++ a.name) := by
  refine ⟨?_, ?_⟩
  · rintro (unknown | unknown) <;> simp [canonicalName, unknown]
  · intro module_known name_known
    have outside : Within a.package (a.canonicalName registry) →
        ∀ l, ¬ Intruder registry a l := by
      intro within l intruder
      rw [canonicalName_of_intruder registry module_known name_known intruder] at within
      exact intruder.outside (within_append_iff.mp within)
    have follows := publicName_of_no_intruder registry module_known name_known
    refine ⟨⟨fun known => outside known.within, follows⟩, ⟨outside, ?_⟩, ?_⟩
    · exact fun none_intrudes => (follows none_intrudes).within
    · exact fun l intruder =>
        canonicalName_of_intruder registry module_known name_known intruder

def hiddenAlias : AliasRef :=
  ⟨"k", "pkg._impl", "A"⟩

def holding (name : String) (genuine : Bool) : Loaded :=
  ⟨name, genuine, [("A", .typeAlias hiddenAlias)]⟩

def crowdedRegistry : Registry :=
  [⟨"pkg", true, [("A", .none)]⟩, holding "pkg._impl" true, holding "pkg.abc" false,
    holding "pkg.shown" true, holding "pkg.typing" true, holding "pkgtools" true]

theorem canonicalName_public_iff_crowded :
    PublicName crowdedRegistry hiddenAlias "pkg.shown.A" := by
  have name : hiddenAlias.canonicalName crowdedRegistry = "pkg.shown.A" := by
    rw [canonicalName, sortedModules_of_pairwise (by decide +kernel)]
    decide +kernel
  obtain ⟨-, known⟩ := canonicalName_public_iff crowdedRegistry hiddenAlias
  obtain ⟨public_iff, within_iff, -⟩ := known (by decide) (by decide)
  have package : hiddenAlias.package = "pkg" := by decide +kernel
  rw [name] at public_iff within_iff
  exact public_iff.mpr (within_iff.mp (.inr ⟨"shown.A", by rw [package]; rfl⟩))

def neighbourRegistry : Registry :=
  [holding "pkg._impl" true, holding "pkgtools" true]

/--
A package whose name begins with that of the alias's package takes the alias
over.
-/
theorem neighbour_takes_alias :
    hiddenAlias.canonicalName neighbourRegistry = "pkgtools.A" ∧
      ¬ PublicName neighbourRegistry hiddenAlias "pkgtools.A" := by
  refine ⟨?_, ?_⟩
  · rw [canonicalName, sortedModules_of_pairwise (by decide +kernel)]
    decide +kernel
  · intro known
    have same := within_packageOf_iff.mp known.within
    exact absurd same (by decide +kernel)

end AliasRef

end DocHints
