import DocHints.Annotation.Facts
import DocHints.Entries

/-!
# Documented paths of types

A type is documented under a public name, and belongs to a module that may be
private.  The mapping goes from the path of a type, which is its module and its
qualified name, to the name under which an inventory of documented objects lists
it.
-/

namespace DocHints

abbrev Inventory := List (String × List String)

namespace Inventory

def typeRoles : List String :=
  ["py:class", "py:function", "py:exception", "py:data"]

def entriesIn (inventory : Inventory) (roles : List String) : List String :=
  roles.flatMap fun role =>
    match List.find? (·.1 == role) inventory with
    | some (_, names) => names
    | none => []

/-- A documented name and the same name among the builtins, if it has no module. -/
def spellings (name : String) : List String :=
  match Text.splitLast? "." name with
  | some (module, _) => if module.isEmpty then [name, "builtins." ++ name] else [name]
  | none => [name, "builtins." ++ name]

def documentedIn (inventory : Inventory) (roles : List String) : List String :=
  (inventory.entriesIn roles).flatMap spellings

end Inventory

/--
The path of a value, as its module and its qualified name give it; unions have
none.
-/
def Value.path? (v : Value) : Option String :=
  match v with
  | .bars _ => Option.none
  | _ =>
    match v.home?, v.qualname? with
    | some home, some name => some (home ++ "." ++ name)
    | _, _ => Option.none

def pathOfDocumented? (registry : Registry) (name : String) : Option String :=
  match Text.splitLast? "." name with
  | none => none
  | some (module, member) =>
    if module.isEmpty then none
    else
      match (registry.member? module member).bind Value.path? with
      | some path =>
        if path == "types.UnionType" || path == "typing.Union" || path == name then none
        else some path
      | none => none

/--
Adds the path that a documented name leads to, unless that path is documented
itself.
-/
def addName (registry : Registry) (documented : List String)
    (mapping : List (String × String)) (name : String) : List (String × String) :=
  match pathOfDocumented? registry name with
  | some path =>
    if documented.contains path then mapping else Entries.put mapping path name
  | none => mapping

/--
The paths that are not documented themselves, with the documented name that
leads to them.  The roles are visited in the given order; of several such names
the last one counts.
-/
def typeMappingIn (roles : List String) (registry : Registry) (inventory : Inventory) :
    List (String × String) :=
  (inventory.entriesIn roles).foldl (addName registry (inventory.documentedIn roles)) []

def typeMapping (registry : Registry) (inventory : Inventory) :
    List (String × String) :=
  typeMappingIn Inventory.typeRoles registry inventory

end DocHints
