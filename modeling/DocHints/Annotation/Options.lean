import DocHints.Failure

/-!
# Rendering options

What the user of the documentation can choose about the rendering of
annotations, and the surroundings in which an annotation is rendered.
-/

namespace DocHints

inductive Formatter where
  /--
  Gives the same answer for every annotation; `none` leaves the annotation to
  the rules.
  -/
  | constant (answer : Option String)
  /-- Answers for ordinary classes by their qualified name. -/
  | classes (answers : List (String × String))
  /-- Any other function; it may fail. -/
  | function (answer : Value → Except Failure (Option String))
  /-- A setting that cannot be called. -/
  | unusable
  deriving Inhabited

def Formatter.answer (f : Formatter) (v : Value) : Except Failure (Option String) :=
  match f with
  | .constant answer => .ok answer
  | .classes answers =>
    match v with
    | .cls c =>
      .ok (if c.plain then (answers.find? (·.1 == c.qualname)).map (·.2) else none)
    | _ => .ok none
  | .function answer => answer v
  | .unusable => .error (.misuse "object is not callable")

structure ModuleFixes where
  replace : String → String
  deriving Inhabited

namespace ModuleFixes

def unchanged : ModuleFixes :=
  ⟨id⟩

def ofPairs (pairs : List (String × String)) : ModuleFixes where
  replace module :=
    match pairs.find? (·.1 == module) with
    | some entry => entry.2
    | none => module

instance : Coe (List (String × String)) ModuleFixes :=
  ⟨ofPairs⟩

end ModuleFixes

structure RenderOptions where
  /-- Show full names, and not only their last part. -/
  fullyQualified : Bool := false
  /-- Write every union with bars. -/
  barsUnion : Bool := true
  /-- Keep the class of `none` among the members of a longer union. -/
  simplifyOptional : Bool := true
  formatter : Option Formatter := none
  moduleFixes : ModuleFixes := .unchanged
  /-- The documented paths of types that are known by another path. -/
  pathMapping : List (String × String) := []
  /--
  The documented objects with their kinds; `none` where nothing is known about
  them.
  -/
  objects : Option (List (String × String)) := none
  /-- The module whose documentation is being made. -/
  currentModule : String := ""
  /-- Write a literal as its bare values. -/
  shortLiterals : Bool := false
  deriving Inhabited

namespace RenderOptions

def shortMark (options : RenderOptions) : String :=
  if options.fullyQualified then "" else "~"

/-- The mark of a reference to a target that may be a bare name, which needs none. -/
def markUnless (options : RenderOptions) (bare : Bool) : String :=
  if options.fullyQualified || bare then "" else "~"

def fixModule (options : RenderOptions) (module : String) : String :=
  let replaced := options.moduleFixes.replace module
  if replaced == "typing_extensions" then "typing"
  else if replaced == "_io" then "io"
  else replaced

def documentsType (objects : List (String × String)) (name : String) : Bool :=
  match objects.find? (·.1 == name) with
  | some entry => entry.2 == "type"
  | none => false

end RenderOptions

end DocHints
