import DocHints.Text.Cut

/-!
# Imports relative to a package

A relative import names its module by the number of steps up from a package.
-/

namespace DocHints.Stub

def nonempty? (name : Option String) : Option String :=
  name.filter fun text => !text.isEmpty

/--
The module that an import names.  A level of one is the package itself, each
further level the package above; `none` if there are not that many.
-/
def importedModule? (level : Nat) (module : Option String) (package : String) :
    Option String :=
  if level == 0 || package.isEmpty then nonempty? module
  else
    let parts := Text.splitFromEnd "." (level - 1) package
    if parts.length < level then none
    else
      let base := parts.headD ""
      match nonempty? module with
      | some name => some (base ++ "." ++ name)
      | none => some base

def fileName (path : String) : String :=
  ((Text.splitLast? "/" path).map (·.2)).getD path

/--
The package that relative imports of a stub start from.  A module that does not
tell its package is one itself if the stub is the stub of a package, and lies in
one otherwise.
-/
def ownerPackage (package : Option String) (module path : String) : String :=
  match nonempty? package with
  | some package => package
  | none =>
    if fileName path == "__init__.pyi" then module
    else ((Text.splitLast? "." module).map (·.1)).getD ""

end DocHints.Stub
