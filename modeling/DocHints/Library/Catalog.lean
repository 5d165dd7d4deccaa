import DocHints.Value.Basic

/-!
# Catalogs of library modules

What a module of the standard library offers, by name.  The lists are texts of
names with a blank between them.
-/

namespace DocHints.Library

structure Catalog where
  /-- The dotted name of the module. -/
  path : String
  /-- Classes that take no arguments. -/
  plain : String := ""
  /-- Classes that take arguments and keep them as they are. -/
  plainGeneric : String := ""
  /--
  Classes, not instances of the ordinary class of classes, that take no
  arguments.
  -/
  special : String := ""
  /-- Classes, not instances of the ordinary class of classes, that take arguments. -/
  specialGeneric : String := ""
  builtinRoutines : String := ""
  scriptedRoutines : String := ""
  /-- Names of classes that belong to another module or have another name there. -/
  elsewhere : List (String × String × String × Bool) := []

def listed (name names : String) : Bool :=
  (Text.words names).contains name

namespace Catalog

def ownClass? (catalog : Catalog) (name : String) : Option ClassRef :=
  if listed name catalog.plain || listed name catalog.plainGeneric then
    some ⟨catalog.path, name, .library, true⟩
  else if listed name catalog.special || listed name catalog.specialGeneric then
    some ⟨catalog.path, name, .library, false⟩
  else none

def otherClass? (catalog : Catalog) (name : String) : Option ClassRef :=
  (catalog.elsewhere.find? (·.1 == name)).map fun entry =>
    ⟨entry.2.1, entry.2.2.1, .library, entry.2.2.2⟩

def find? (catalog : Catalog) (name : String) : Option Value :=
  match catalog.ownClass? name with
  | some c => some (.cls c)
  | none =>
    match catalog.otherClass? name with
    | some c => some (.cls c)
    | none =>
      if listed name catalog.builtinRoutines then
        some (.routine .builtin catalog.path name)
      else if listed name catalog.scriptedRoutines then
        some (.routine .scripted catalog.path name)
      else none

def takesArguments (catalog : Catalog) (name : String) : Bool :=
  listed name catalog.plainGeneric || listed name catalog.specialGeneric

end Catalog

end DocHints.Library
