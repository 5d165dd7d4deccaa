import DocHints.Program.Inspect
import DocHints.Stub.Lookup

/-!
# Finding stubs

The stub of a module stands beside its file, or in a folder of its package; a
module without a file is looked for in the folders of the package around it.  A
module without a stub may be described by the stub of a package above it.
-/

namespace DocHints.Stub

open Program
open Source (Stmt)

def isFile (w : World) (path : String) : Bool :=
  (w.file? path).isSome

/-- The stub beside a source file: its name up to the first dot. -/
def besideFile (file : String) : String :=
  let (dir, name) := splitPath file
  let base := ((Text.splitFirst? "." name).map (·.1)).getD name
  joinPath dir (base ++ ".pyi")

def moduleFile? (w : World) (module : String) : Option String :=
  match w.moduleName? module "__file__" with
  | some (.str file) => some file
  | _ => none

def findNativeStub? (w : World) (module : String) : Option String :=
  match Text.splitLast? "." module with
  | none => none
  | some (parent, child) =>
    ((w.pathOf? parent).getD []).findSome? fun dir =>
      [joinPath dir (child ++ ".pyi"),
        joinPath (joinPath dir child) "__init__.pyi"].find? (isFile w)

def findModuleStub? (w : World) (module : String) : Option String :=
  match moduleFile? w module with
  | none => findNativeStub? w module
  | some file =>
    if isFile w (besideFile file) then some (besideFile file)
    else ((w.pathOf? module).getD []).findSome? fun dir =>
      let stub := joinPath dir "__init__.pyi"
      if isFile w stub then some stub else none

def packagesAbove (module : String) : List String :=
  let parts := Text.dotted module
  ((List.range parts.length).drop 1).reverse.map fun n => Text.join "." (parts.take n)

structure Owner where
  stub : String
  module : String
  deriving DecidableEq, Repr

/--
The stub that describes a module: its own, or that of the nearest loaded package
above it.
-/
def findOwner? (w : World) (module : String) : Option Owner :=
  (module :: packagesAbove module).findSome? fun name =>
    if name == module || w.isLoaded name then
      (findModuleStub? w name).map fun stub => ⟨stub, name⟩
    else none

def definingModule? (engine : Engine) (v : Value) : Run (Option String) := do
  match ← moduleOf? engine v with
  | some module => return some module
  | none =>
    match ← getAttribute? engine v "__objclass__" with
    | some owner => moduleOf? engine owner
    | none =>
      match ← getAttribute? engine v "__self__" with
      | some (.cls c) => moduleOf? engine (.cls c)
      | _ => return none

def ownerOf? (engine : Engine) (v : Value) : Run (Option Owner) := do
  match ← definingModule? engine v with
  | some module => return findOwner? (← get) module
  | none => return none

/-- The statements of a stub; one that cannot be read has none. -/
def treeOf? (w : World) (stub : String) : Option (List Stmt) :=
  (w.file? stub).bind fun source => (Source.readModule false source).toOption

def annotationsFor (engine : Engine) (v : Value) : Run (List (String × String)) := do
  match ← ownerOf? engine v with
  | none => return []
  | some owner =>
    match treeOf? (← get) owner.stub, ← textAttribute? engine v "__qualname__" with
    | some tree, some qualname =>
      return if qualname.isEmpty then [] else annotationsOf tree qualname
    | _, _ => return []

def descriptorFor? (engine : Engine) (v : Value) : Run (Option String) := do
  match ← getAttribute? engine v "__objclass__",
    ← textAttribute? engine v "__name__" with
  | some (.cls c), some name =>
    if name.isEmpty then return none
    match ← ownerOf? engine v with
    | none => return none
    | some owner =>
      return (treeOf? (← get) owner.stub).bind fun tree =>
        descriptorType? tree c.qualname name
  | _, _ => return none

end DocHints.Stub
