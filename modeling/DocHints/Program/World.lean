import DocHints.Annotation.Build
import DocHints.Attributes
import DocHints.Entries
import DocHints.Program.Warning
import DocHints.Signature.Text

/-!
# The state of a program

Modules, classes and functions can change while a program runs, so values refer
to them and the `World` holds them.  A computation of type `Run` reads and
changes the world; what it changed before a failure stays changed.
-/

namespace DocHints.Program

open Source (Expr Stmt)

/-! ## Names -/

abbrev Names := Entries Value

/--
A place for names: of a module, of a class body or of a call.  A bare one lacks
the builtins.
-/
structure Space where
  names : Names := []
  bare : Bool := false
  deriving Inhabited, Repr

/-! ## Objects -/

structure Origin where
  file : String
  lines : Option (Nat × Nat)
  deriving DecidableEq, Repr, Inhabited

inductive Body where
  | statements (body : List Stmt)
  | expression (e : Expr)
  | unknown
  deriving Inhabited, Repr

structure Function where
  name : String
  qualname : String
  module : Option String
  params : List SignatureParam
  annotations : Annotations := []
  /-- Further attributes, such as the function that this one wraps. -/
  attributes : Names := []
  /-- The space that holds the global names. -/
  globals : Nat
  /-- The spaces around the definition, the nearest one first. -/
  around : List Nat := []
  source : Origin
  /-- Whether definitions inside keep their annotations as texts. -/
  postponed : Bool := false
  body : Body := .unknown
  deriving Inhabited, Repr

structure Class where
  ref : ClassRef
  /-- The class itself and its ancestors in the order in which names are looked up. -/
  lineage : List ClassRef
  names : Names := []
  annotations : Option Annotations := none
  subscription : Subscription := .refused
  source : Option Origin := none
  deriving Repr

/-- A step that waits for its last argument, such as a decorator with options. -/
inductive Pending where
  /-- Makes a function look like `model`. -/
  | wraps (model : Value)
  /-- Makes a function that stands before its argument. -/
  | wrapper
  /-- Makes a class from its declared fields. -/
  | dataclass (options : Names)
  /-- Gives back its argument. -/
  | identity
  /-- Gives a property another part and keeps its getter. -/
  | property (getter : Value)
  deriving Inhabited, Repr

inductive Object where
  | function (f : Function)
  | method (function receiver : Value)
  | property (getter : Value)
  | classMethod (function : Value)
  | staticMethod (function : Value)
  /-- A named place in the instances of a class. -/
  | slot (owner : ClassRef) (name : String)
  | partialCall (function : Value) (args : List Value) (keywords : Names)
      (attributes : Names)
  | pending (step : Pending)
  | instanceOf (owner : ClassRef) (attributes : Names)
  deriving Inhabited, Repr

/-! ## The world -/

structure World where
  spaces : Array Space := #[]
  objects : Array Object := #[]
  /-- The classes made so far, the latest first. -/
  classes : List Class := []
  /-- The loaded modules with the spaces of their names. -/
  modules : List (String × Nat) := []
  files : List (String × String) := []
  /-- The modules that are replaced by stand-ins at the moment. -/
  replaced : List String := []
  /-- How many classes and variables have been made. -/
  made : Nat := 0
  /-- The name of the module whose code is running. -/
  running : String := "__main__"
  /-- What the aliases made by the program stand for. -/
  aliases : List (String × Value) := []
  /-- The modules whose guarded imports have been resolved. -/
  resolved : List String := []
  /-- The overloads of the functions of analysed modules. -/
  overloads : List (String × List (String × List Signature)) := []
  /-- The warnings so far, the latest first. -/
  warnings : List Warning := []
  deriving Inhabited

abbrev Run := ExceptT Failure (StateM World)

namespace Run

def attempt {α : Type} (x : Run α) : Run (Except Failure α) :=
  ExceptT.lift x.run

def ofOutcome {α : Type} (x : Outcome α) : Run α :=
  match x with
  | .ok v => pure v
  | .error f => throw f

end Run

instance : MonadLift (Except Failure) Run where
  monadLift := Run.ofOutcome

namespace World

def object? (w : World) (v : Value) : Option Object :=
  match v with
  | .object h => w.objects[h.serial]?
  | _ => none

def function? (w : World) (v : Value) : Option Function :=
  match w.object? v with
  | some (.function f) => some f
  | _ => none

def class? (w : World) (c : ClassRef) : Option Class :=
  w.classes.find? (·.ref == c)

def space (w : World) (n : Nat) : Space :=
  w.spaces.getD n {}

def moduleSpace? (w : World) (name : String) : Option Nat :=
  (w.modules.find? (·.1 == name)).map (·.2)

def moduleName? (w : World) (module name : String) : Option Value :=
  (w.moduleSpace? module).bind fun n => (w.space n).names.find? name

/-- Whether a module is loaded; those of the library always are. -/
def isLoaded (w : World) (name : String) : Bool :=
  (w.moduleSpace? name).isSome || Library.isModule name

def setSpace (w : World) (n : Nat) (change : Names → Names) : World :=
  { w with spaces := w.spaces.modify n fun s => { s with names := change s.names } }

def setObject (w : World) (serial : Nat) (o : Object) : World :=
  { w with objects := w.objects.setIfInBounds serial o }

def setClass (w : World) (c : Class) : World :=
  { w with classes := w.classes.map fun d => if d.ref == c.ref then c else d }

def subscription (w : World) (c : ClassRef) : Subscription :=
  match w.class? c with
  | some info => info.subscription
  | none => c.librarySubscription

def registry (w : World) : Registry :=
  w.modules.map fun entry => ⟨entry.1, true, (w.space entry.2).names⟩

end World

/-! ## Making and changing things -/

def warn (cause : Warning.Cause) (location : Option String) : Run Unit :=
  modify fun w => { w with warnings := ⟨cause, location⟩ :: w.warnings }

def newSpace (s : Space) : Run Nat := do
  let n := (← get).spaces.size
  modify fun w => { w with spaces := w.spaces.push s }
  return n

def newSerial : Run Nat := do
  let n := (← get).made
  modify fun w => { w with made := w.made + 1 }
  return n

def setName (space : Nat) (name : String) (v : Value) : Run Unit :=
  modify fun w => w.setSpace space fun names => names.put name v

def kindOf : Object → ObjectKind
  | .function _ => .function
  | .method _ _ => .method
  | .property _ => .property
  | .classMethod _ => .classMethod
  | .staticMethod _ => .staticMethod
  | .slot _ _ => .slot
  | .partialCall _ _ _ _ => .partialCall
  | .pending _ => .partialCall
  | .instanceOf _ _ => .instanceOf

def shownName (w : World) (o : Object) : String × String :=
  let ofFunction (v : Value) : String × String :=
    match w.function? v with
    | some f => (f.module.getD "", f.qualname)
    | none => ("", "")
  match o with
  | .function f => (f.module.getD "", f.qualname)
  | .method f _ => ofFunction f
  | .classMethod f => ofFunction f
  | .staticMethod f => ofFunction f
  | .slot owner name => (owner.module, owner.qualname ++ "." ++ name)
  | .instanceOf owner _ => (owner.module, owner.qualname)
  | _ => ("", "")

def newObject (o : Object) : Run Value := do
  let w ← get
  let (home, qualname) := shownName w o
  set { w with objects := w.objects.push o }
  return .object ⟨w.objects.size, kindOf o, home, qualname⟩

def newClass (c : Class) : Run Unit :=
  modify fun w => { w with classes := c :: w.classes }

end DocHints.Program
