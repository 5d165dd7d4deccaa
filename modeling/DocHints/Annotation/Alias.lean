import DocHints.Annotation.Describe
import DocHints.Annotation.Options

/-!
# Named aliases

An alias is documented under its canonical name: the first public module, in the
order of the modules' names, that offers the alias, if its own module is
private.  A reference to an alias goes to a documented type of a fitting name,
or to another package; where neither exists the alias is replaced by what it
stands for.
-/

namespace DocHints

def isPrivateModule (module : String) : Bool :=
  (Text.dotted module).any (Text.startsWith "_")

namespace AliasRef

def sortedModules (registry : Registry) : List Loaded :=
  List.mergeSort registry fun a b => a.name ≤ b.name

def offeredBy (a : AliasRef) (package : String) (loaded : Loaded) : Bool :=
  Text.startsWith package loaded.name && loaded.genuine
    && !isPrivateModule loaded.name &&
    match loaded.member? a.name with
    | some (.typeAlias other) => other == a
    | _ => false

/-- The public name of an alias; empty if its module or its own name is unknown. -/
def canonicalName (registry : Registry) (a : AliasRef) : String :=
  if a.module.isEmpty || a.name.isEmpty then ""
  else if !isPrivateModule a.module then a.module ++ "." ++ a.name
  else
    let package := (Text.dotted a.module).headD ""
    match (sortedModules registry).find? (a.offeredBy package) with
    | some loaded => loaded.name ++ "." ++ a.name
    | none => a.module ++ "." ++ a.name

/--
The parts of the current module, from its full path up to its package, each with
the name.
-/
def enclosingNames (parts : List String) (name : String) : List String :=
  (List.range parts.length).reverse.map fun n =>
    Text.join "." (parts.take (n + 1) ++ [name])

/--
Where a reference to the alias goes, if one can be made without knowing what the
alias stands for: the role of the reference and the path of its target.
-/
def target? (registry : Registry) (options : RenderOptions) (a : AliasRef) :
    Option (String × String) :=
  match options.objects with
  | none => none
  | some objects =>
    let parts :=
      if options.currentModule.isEmpty then [] else Text.dotted options.currentModule
    let canonical := a.canonicalName registry
    let candidates :=
      enclosingNames parts a.name ++ (if canonical.isEmpty then [] else [canonical])
        ++ [a.name]
    match candidates.find? (RenderOptions.documentsType objects) with
    | some candidate => some ("type", candidate)
    | none =>
      if !canonical.isEmpty && (Text.dotted canonical).headD "" != parts.headD "" then
        let home := ((Text.splitLast? "." canonical).map (·.1)).getD ""
        some ("obj", options.fixModule home ++ "." ++ a.name)
      else none

def reference? (registry : Registry) (options : RenderOptions) (a : AliasRef) :
    Option String :=
  (a.target? registry options).map fun target =>
    ":py:" ++ target.1 ++ ":`" ++ options.shortMark ++ target.2 ++ "`"

def shownName (registry : Registry) (a : AliasRef) : String :=
  let canonical := a.canonicalName registry
  if canonical.isEmpty then a.name else canonical

def nameText (registry : Registry) (options : RenderOptions) (a : AliasRef) : String :=
  ":py:type:`" ++ options.shortMark ++ a.shownName registry ++ "`"

def cycleText (registry : Registry) (options : RenderOptions) (a : AliasRef) : String :=
  (a.reference? registry options).getD (a.nameText registry options)

end AliasRef

end DocHints
