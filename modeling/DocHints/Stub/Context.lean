import DocHints.Stub.Files
import DocHints.Stub.Import

/-!
# The names of a stub

A stub is not run: its imports are made and its definitions of variables and
classes are executed one by one in a namespace of their own, each for itself, so
that one that fails leaves the others alone.  Code of a stub keeps its
annotations as texts.
-/

namespace DocHints.Stub

open Program
open Source (Stmt ImportName Expr)

/-! ## Imports -/

def importOne (engine : Engine) (space : Nat) (item : ImportName) : Run Unit := do
  let (bound, path) := match item.bound with
    | some name => (name, item.name)
    | none => (topPart item.name, topPart item.name)
  match ← (engine.load path).attempt with
  | .ok module => setName space bound module
  | .error f => if f.kind.isImport then return () else throw f

/-- The names that a module has; those without a value are left out. -/
def importNames (engine : Engine) (space : Nat) (module : Value) :
    List ImportName → Run Unit
  | [] => return ()
  | item :: rest => do
    if item.name != "*" then
      match ← getAttribute? engine module item.name with
      | some v => if !v.isNone then setName space (item.bound.getD item.name) v
      | none => pure ()
    importNames engine space module rest

def importFromModule (engine : Engine) (package : String) (space : Nat)
    (module : Option String) (names : List ImportName) (level : Nat) : Run Unit := do
  match importedModule? level module package with
  | none => return ()
  | some path =>
    match ← (engine.load path).attempt with
    | .ok source => importNames engine space source names
    | .error f => if f.kind.isImport then return () else throw f

mutual

/-- Makes the imports of a body, both sides of its branches included. -/
def makeImports (engine : Engine) (package : String) (space : Nat) :
    List Stmt → Run Unit
  | [] => return ()
  | stmt :: rest => do
    makeImport engine package space stmt
    makeImports engine package space rest

def makeImport (engine : Engine) (package : String) (space : Nat) : Stmt → Run Unit
  | .importModules names => do
    for item in names do
      importOne engine space item
  | .importFrom module names level =>
    importFromModule engine package space module names level
  | .branch _ body orElse => do
    makeImports engine package space body
    makeImports engine package space orElse
  | _ => return ()

end

/-! ## Definitions -/

def undecorated : Stmt → Stmt
  | .classDef head body => .classDef { head with decorators := [] } body
  | stmt => stmt

def isDefinition : Stmt → Bool
  | .assign _ _ _ => true
  | .annAssign _ _ _ => true
  | .classDef _ _ => true
  | _ => false

mutual

/-- Executes the definitions of a body; one that fails is passed over. -/
def makeDefinitions (engine : Engine) (space : Nat) : List Stmt → Run Unit
  | [] => return ()
  | stmt :: rest => do
    makeDefinition engine space stmt
    makeDefinitions engine space rest

def makeDefinition (engine : Engine) (space : Nat) : Stmt → Run Unit
  | .branch _ body orElse => do
    makeDefinitions engine space body
    makeDefinitions engine space orElse
  | stmt =>
    if isDefinition stmt then do
      let scope : Scope := { globals := space, postponed := true, file := "<stub>" }
      let _ ← (engine.execute scope [undecorated stmt]).attempt
    else return ()

end

def namesOf (engine : Engine) (package : String) (tree : List Stmt) : Run Names := do
  let space ← newSpace {}
  makeImports engine package space tree
  makeDefinitions engine space tree
  return ((← get).space space).names

/-! ## Context -/

structure Context where
  names : Names := []
  aliases : List String := []
  /-- The module that the stub belongs to; empty without a stub. -/
  owner : String := ""
  deriving Inhabited

def packageFor (w : World) (owner : Owner) : String :=
  let package := match w.moduleName? owner.module "__package__" with
    | some (.str name) => some name
    | _ => none
  ownerPackage package owner.module owner.stub

def moduleNames (w : World) (module : String) : Names :=
  match w.moduleSpace? module with
  | some space => (w.space space).names
  | none => []

/--
The context of the stub that describes a value: the module's names under those
of the stub.
-/
def contextOf (engine : Engine) (v : Value) : Run Context := do
  match ← ownerOf? engine v with
  | none => return {}
  | some owner =>
    match treeOf? (← get) owner.stub with
    | none => return {}
    | some tree =>
      let own := moduleNames (← get) owner.module
      let names ← namesOf engine (packageFor (← get) owner) tree
      return ⟨Entries.putAll own names, aliasNames tree, owner.module⟩

def Context.withAliases (context : Context) (names : Names) : Names :=
  Entries.putAll names (context.aliases.map fun name =>
    (name, .aliasName name (some true)))

end DocHints.Stub
