import DocHints.Program.Execute

/-!
# Importing modules

A module is found by its name in the files: a package is a folder with an
initial file, a module is a file, and a folder without an initial file is a
package of nothing but other modules.  A module that is being imported counts as
loaded, so that modules can import each other.
-/

namespace DocHints.Program

open Source (Stmt)

/-! ## Finding files -/

inductive Found.File where
  | package (file dir : String)
  | module (file : String)
  | folder (dir : String)
  deriving DecidableEq, Repr

def World.file? (w : World) (path : String) : Option String :=
  (w.files.find? (·.1 == path)).map (·.2)

def findFile? (w : World) (dir name : String) : Option Found.File :=
  let base := joinPath dir name
  let initial := base ++ "/__init__.py"
  if (w.file? initial).isSome then some (.package initial base)
  else if (w.file? (base ++ ".py")).isSome then some (.module (base ++ ".py"))
  else if w.files.any fun entry => Text.startsWith (base ++ "/") entry.1 then
    some (.folder base)
  else none

def World.pathOf? (w : World) (module : String) : Option (List String) :=
  (w.moduleName? module "__path__").map slotNames

/-! ## Loading -/

def isPostponed (body : List Stmt) : Bool :=
  body.any fun stmt =>
    match stmt with
    | .importFrom (some "__future__") names 0 => names.any (·.name == "annotations")
    | _ => false

def unload (name : String) : Run Unit :=
  modify fun w => { w with modules := w.modules.filter (·.1 != name) }

def initialNames (name : String) (file : Option String) (path : Option String) :
    Names :=
  let package :=
    if path.isSome then name else ((Text.splitLast? "." name).map (·.1)).getD ""
  [("__name__", .str name), ("__package__", .str package)]
    ++ (file.map fun f => ("__file__", Value.str f)).toList
    ++ (path.map fun dir => ("__path__", Value.list [.str dir])).toList

def register (name : String) (names : Names) : Run Nat := do
  let space ← newSpace { names := names }
  modify fun w => { w with modules := (name, space) :: w.modules }
  return space

def runSource (engine : Engine) (space : Nat) (file source : String) : Run Unit := do
  let body ← (Source.readModule false source : Outcome (List Stmt))
  let scope : Scope := { globals := space, postponed := isPostponed body, file := file }
  let _ ← engine.execute scope body

/-- Runs the body of a module; a module that fails is not loaded. -/
def runModule (engine : Engine) (name file : String) (path : Option String) :
    Run Unit := do
  let space ← register name (initialNames name (some file) path)
  match ← (runSource engine space file (((← get).file? file).getD "")).attempt with
  | .ok _ => return ()
  | .error f =>
    unload name
    throw f

def loadFile (engine : Engine) (name : String) : Found.File → Run Unit
  | .package file dir => runModule engine name file (some dir)
  | .module file => runModule engine name file none
  | .folder dir => do
    let _ ← register name (initialNames name none (some dir))

def isReplaced (w : World) (name : String) : Bool :=
  w.replaced.any fun target => target == name || Text.startsWith (target ++ ".") name

def attachToParent (name : String) : Run Unit := do
  match Text.splitLast? "." name with
  | some (parent, child) =>
    match (← get).moduleSpace? parent with
    | some space => setName space child (.module name)
    | none => return ()
  | none => return ()

def loadMissing (engine : Engine) (name : String) : Run Value := do
  match Text.splitLast? "." name with
  | none =>
    match findFile? (← get) "" name with
    | some file => loadFile engine name file
    | none => throw (.moduleMissing name)
  | some (parent, child) =>
    let _ ← engine.load parent
    let w ← get
    if (w.moduleSpace? name).isNone then
      match w.pathOf? parent with
      | none =>
        if Library.isPackage parent then throw (.moduleMissing name)
        let text := "No module named " ++ Text.quote name ++ "; " ++ Text.quote parent
        throw ⟨.moduleMissing, [.str (text ++ " is not a package")], some name⟩
      | some dirs =>
        match dirs.findSome? fun dir => findFile? w dir child with
        | some file =>
          loadFile engine name file
          attachToParent name
        | none => throw (.moduleMissing name)
  return .module name

def loadWith (engine : Engine) (name : String) : Run Value := do
  let w ← get
  if name.isEmpty then throw (.badValue "Empty module name")
  if (w.moduleSpace? name).isSome then return .module name
  if isReplaced w name then
    match Text.splitLast? "." name with
    | some (parent, child) => return standIn parent child
    | none => return standIn "" name
  if Library.isModule name then return .module (Library.moduleName name)
  loadMissing engine name

/-! ## The engines -/

def engine : Nat → Engine
  | 0 => .exhausted
  | depth + 1 =>
    let inner := engine depth
    { evaluate := evaluateWith inner
      execute := executeWith inner
      call := callWith inner
      load := loadWith inner }

def depthLimit : Nat := 1000

end DocHints.Program
