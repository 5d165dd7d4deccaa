import DocHints.Proofs.Cutting
import DocHints.Stub.Context

/-!
# Relative imports

The imports of a stub find their package by one division from the end, those of
a program by going up one package at a time.  Both name the same module: the
first parts of the package, one fewer for each level after the first, and the
module behind them.  The stub of a native module takes its imports from the
package that the module lies in.
-/

namespace DocHints

namespace Text

theorem splitFromEnd_dot (count : Nat) (name : String) :
    splitFromEnd "." count name =
      join "." ((dotted name).take (max 1 ((dotted name).length - count))) ::
        (dotted name).drop (max 1 ((dotted name).length - count)) := by
  induction count generalizing name with
  | zero =>
      have some_part := length_dotted_pos name
      have all_parts : max 1 ((dotted name).length - 0) = (dotted name).length := by
        omega
      rw [splitFromEnd, all_parts, List.take_length, List.drop_length, join_dotted]
  | succ count ih =>
      cases split : splitLast? "." name with
      | none =>
          have parts := dotted_undotted (splitLast?_eq_none_iff.mp split)
          simp [splitFromEnd, split, parts, join, String.intercalate_singleton]
      | some halves =>
          -- The last part goes to the end, and what is before it is divided once less.
          obtain ⟨front, last⟩ := halves
          have some_part := length_dotted_pos front
          have taken : max 1 ((dotted name).length - (count + 1)) =
              max 1 ((dotted front).length - count) := by
            simp [dotted_of_splitLast? split]
          have within : max 1 ((dotted front).length - count) ≤
              (dotted front).length := by omega
          rw [splitFromEnd, split, taken, dotted_of_splitLast? split,
            List.take_append_of_le_length within, List.drop_append_of_le_length within]
          exact congrArg (· ++ [last]) (ih front)

end Text

namespace Program

theorem packageAbove?_eq (steps : Nat) (package : String) :
    packageAbove? steps package =
      if steps < (Text.dotted package).length then
        some (Text.join "."
          ((Text.dotted package).take ((Text.dotted package).length - steps)))
      else none := by
  induction steps generalizing package with
  | zero =>
      have some_part := Text.length_dotted_pos package
      rw [packageAbove?, if_pos some_part, Nat.sub_zero, List.take_length,
        Text.join_dotted]
  | succ steps ih =>
      cases split : Text.splitLast? "." package with
      | none =>
          have parts := Text.dotted_undotted (Text.splitLast?_eq_none_iff.mp split)
          simp [packageAbove?, split, parts]
      | some halves =>
          obtain ⟨front, last⟩ := halves
          have left : (Text.dotted front).length - steps ≤
              (Text.dotted front).length := by omega
          have parts := Text.dotted_of_splitLast? split
          simp [packageAbove?, split, ih, parts, List.take_append_of_le_length left]

end Program

namespace Stub

open Program

/-! ## The names of modules -/

/--
The first parts of a package: all of them for level one, one fewer for each
further level.
-/
def enclosing (package : String) (level : Nat) : String :=
  Text.join "." ((Text.dotted package).take ((Text.dotted package).length - level + 1))

def memberName (package : String) (module : Option String) : String :=
  ((nonempty? module).map (package ++ "." ++ ·)).getD package

theorem memberName_of_told (package : String) {name : String} (told : name ≠ "") :
    memberName package (some name) = package ++ "." ++ name := by
  simp [memberName, nonempty?, Option.filter, told]

theorem enclosing_one (package : String) : enclosing package 1 = package := by
  have some_part := Text.length_dotted_pos package
  rw [enclosing, Nat.sub_add_cancel some_part, List.take_length, Text.join_dotted]

section

variable {package : String} {level : Nat} (relative : 1 ≤ level)
  (module : Option String)

include relative

theorem importedModule?_eq (told : package ≠ "") :
    importedModule? level module package =
      if level ≤ (Text.dotted package).length then
        some (memberName (enclosing package level) module)
      else none := by
  have some_part := Text.length_dotted_pos package
  have climbs : (level == 0 || package.isEmpty) = false := by
    simp [told, Nat.ne_of_gt relative]
  simp only [importedModule?, climbs, Bool.false_eq_true, if_false,
    Text.splitFromEnd_dot, List.length_cons, List.length_drop, List.headD_cons]
  by_cases high : level ≤ (Text.dotted package).length
  · have kept : max 1 ((Text.dotted package).length - (level - 1)) =
        (Text.dotted package).length - level + 1 := by omega
    rw [if_pos high, if_neg (by omega), kept, memberName]
    cases nonempty? module <;> rfl
  · rw [if_neg high, if_pos (by omega)]

theorem importedName_eq {w : World} {scope : Scope}
    (home : Program.packageOf w scope = package) (told : package ≠ "") :
    (importedName w scope module level).toOption =
      if level ≤ (Text.dotted package).length then
        some (memberName (enclosing package level) module)
      else none := by
  have climbs : (level == 0) = false := by simp [Nat.ne_of_gt relative]
  have own : package.isEmpty = false := by simp [told]
  simp only [importedName, climbs, home, own, Bool.false_eq_true, if_false,
    packageAbove?_eq]
  by_cases high : level ≤ (Text.dotted package).length
  · have kept : (Text.dotted package).length - (level - 1) =
        (Text.dotted package).length - level + 1 := by omega
    rw [if_pos high, if_pos (by omega), kept]
    rfl
  · rw [if_neg high, if_neg (by omega)]
    rfl

end

/-! ## Native modules -/

/--
A native module does not tell its package; its stub has its name and lies in its
package.
-/
theorem packageFor_native {w : World} {owner : Owner} {package child : String}
    (named : owner.module = package ++ "." ++ child) (undotted : '.' ∉ child.toList)
    (beside : fileName owner.stub = child ++ ".pyi") (plain : child ≠ "__init__")
    (untold : ∀ name, w.moduleName? owner.module "__package__" = some (.str name) →
      name = "") :
    packageFor w owner = package := by
  have of_untold : ∀ told, nonempty? told = none →
      ownerPackage told owner.module owner.stub = package := by
    intro told untold
    have other : (fileName owner.stub == "__init__.pyi") = false := by
      rw [beside, beq_eq_false_iff_ne]
      intro same
      exact plain (String.append_left_inj ".pyi" |>.mp same)
    simp [ownerPackage, untold, other, named, Text.splitLast?_dot.mpr ⟨rfl, undotted⟩]
  rw [packageFor]
  apply of_untold
  split
  · rename_i name told
    rw [untold name told]
    rfl
  · rfl

/--
A relative import of a stub names no module exactly if its level is higher than
its package is deep, and the module that a program of the package would import
otherwise.  In the stub of a native module the first level is the package that
the module lies in.
-/
theorem importedModule?_relative :
    (∀ (package : String) (level : Nat), package ≠ "" → 1 ≤ level →
      (∀ module, importedModule? level module package = none ↔
        (Text.dotted package).length < level) ∧
      (level ≤ (Text.dotted package).length →
        importedModule? level none package = some (enclosing package level) ∧
        ∀ name, name ≠ "" →
          importedModule? level (some name) package =
            some (enclosing package level ++ "." ++ name)) ∧
      ∀ (w : World) (scope : Scope) (module : Option String),
        Program.packageOf w scope = package →
        importedModule? level module package =
          (importedName w scope module level).toOption) ∧
    ∀ (w : World) (owner : Owner) (package child name : String), package ≠ "" →
      owner.module = package ++ "." ++ child → '.' ∉ child.toList → child ≠ "__init__" →
      fileName owner.stub = child ++ ".pyi" →
      (∀ told, w.moduleName? owner.module "__package__" = some (.str told) →
        told = "") →
      name ≠ "" →
      importedModule? 1 (some name) (packageFor w owner) =
        some (package ++ "." ++ name) := by
  constructor
  · intro package level told relative
    refine ⟨?_, ?_, ?_⟩
    · intro module
      rw [importedModule?_eq relative module told]
      split <;> simp <;> omega
    · intro high
      simp only [importedModule?_eq relative _ told, if_pos high]
      exact ⟨rfl, fun name named => by rw [memberName_of_told _ named]⟩
    · intro w scope module home
      rw [importedModule?_eq relative module told,
        importedName_eq relative module home told]
  · intro w owner package child name told named undotted plain beside untold member
    have deep : 1 ≤ (Text.dotted package).length := Text.length_dotted_pos package
    rw [packageFor_native named undotted beside plain untold,
      importedModule?_eq (Nat.le_refl 1) (some name) told, if_pos deep, enclosing_one,
      memberName_of_told package member]

def nativeWorld : World :=
  { spaces := #[{ names := [("__package__", .str "lab.core.tools")] },
      { names := [("__package__", .none)] }]
    modules := [("lab.core.tools", 0), ("lab.core._fast", 1)] }

theorem importedModule?_relative_native :
    importedModule? 3 (some "plan") "lab.core.tools" = some "lab.plan" ∧
    importedModule? 4 (some "plan") "lab.core.tools" = none ∧
    (importedName nativeWorld { globals := 0 } (some "plan") 3).toOption =
      some "lab.plan" ∧
    importedModule? 1 (some "types")
      (packageFor nativeWorld ⟨"src/lab/core/_fast.pyi", "lab.core._fast"⟩) =
        some "lab.core.types" := by
  obtain ⟨relative, native⟩ := importedModule?_relative
  obtain ⟨-, found, program⟩ := relative "lab.core.tools" 3 (by decide) (by decide)
  have up := (found (by decide)).2 "plan" (by decide)
  refine ⟨up, ((relative "lab.core.tools" 4 (by decide) (by decide)).1 _).mpr
    (by decide), ?_, ?_⟩
  · rw [← program nativeWorld { globals := 0 } (some "plan") rfl, up]
    decide
  · apply native nativeWorld ⟨"src/lab/core/_fast.pyi", "lab.core._fast"⟩ "lab.core"
      "_fast" "types"
    · decide
    · decide
    · decide
    · decide
    · decide
    · intro told read
      have silent : nativeWorld.moduleName? "lab.core._fast" "__package__" =
          some .none := rfl
      rw [silent] at read
      cases read
    · decide

end Stub

end DocHints
