import DocHints.Hints.Comment
import DocHints.Hints.Guarded
import DocHints.Hints.InstanceVars
import DocHints.Hints.TypeHints
import DocHints.Stub.Context

/-!
# All that is known about the types of a value

Stored annotations come first; a value without them takes its types from
comments in its source, and then from the stub that describes it.  What was
found is stored on the value, so that it is known from then on.
-/

namespace DocHints.Hints

open Program

/-! ## Guarded imports -/

def whileReplaced {α : Type} (names : List String) (x : Run α) : Run α := do
  let before := (← get).replaced
  modify fun w => { w with replaced := names }
  let outcome ← x.attempt
  modify fun w => { w with replaced := before }
  match outcome with
  | .ok v => return v
  | .error f => throw f

def runBlock (engine : Engine) (space : Nat) (block : String) : Run Unit := do
  let body ← (Source.readModule false block : Outcome (List Source.Stmt))
  let _ ← engine.execute { globals := space, postponed := true } body

def guardSteps (engine : Engine) (replaced : List String) : GuardSteps World where
  skips v := do
    match v with
    | .module _ => return false
    | _ =>
      if ((← get).globalsOf? v).isNone then return true
      match ← textAttribute? engine v "__module__" with
      | some module =>
        return (← get).resolved.contains module || Library.isNative module
      | none => return false
  source? v := do
    match ← moduleOf? engine v with
    | none => return none
    | some module =>
      match ← (sourceOf engine (.module module)).attempt with
      | .ok source => return some (module, source)
      | .error f => if isSourceFailure f then return none else throw f
  mark module := modify fun w => { w with resolved := module :: w.resolved }
  execute v block := do
    let space ← match v with
      | .module name => spaceOf name
      | _ => do pure (((← get).globalsOf? v).getD 0)
    whileReplaced replaced (runBlock engine space block)
  load name := engine.load name
  report v f := do
    let module ← match ← textAttribute? engine v "__module__" with
      | some name => pure name
      | none => do pure ((← textAttribute? engine v "__name__").getD "?")
    warn (.guardedImport (.str module) f) (← locationOf? engine v)

/-! ## Local names -/

def paramNames : Option Value → Names
  | some (.tuple items) => items.filterMap fun item =>
      match item.asVariable with
      | some x => some (x.name, item)
      | none => none
  | _ => []

def ownName? (w : World) (v : Value) (name : String) : Option Value :=
  match v with
  | .module module =>
    match w.moduleSpace? module with
    | some space => (w.space space).names.find? name
    | none => Library.attribute? module name
  | .cls c => (w.class? c).bind fun info => info.names.find? name
  | .object _ =>
    match w.object? v with
    | some (.function f) => f.attributes.find? name
    | some (.instanceOf _ attributes) => attributes.find? name
    | _ => none
  | _ => none

/--
Adds the classes on the way to a value, and the type parameters of all that is
on the way.
-/
def enclosingNames (engine : Engine) (given : Names)
    (place : String → Run (Option Value)) : List String → Run Names
  | [] => return given
  | part :: rest => do
    match ← place part with
    | none => return given
    | some .none => return given
    | some v =>
      let given := if isClass v then given.put part v else given
      let given :=
        Entries.putAll given (paramNames (← getAttribute? engine v "__type_params__"))
      enclosingNames engine given (fun name => do return ownName? (← get) v name) rest

def localNames (engine : Engine) (given : Names) (v : Value) : Run Names := do
  let given :=
    Entries.putAll given (paramNames (← getAttribute? engine v "__type_params__"))
  let parts := Text.dotted ((← textAttribute? engine v "__qualname__").getD "")
  if parts.length ≤ 1 then return given
  let place : String → Run (Option Value) ← match ← moduleOf? engine v with
    | some module => pure fun name => do return ownName? (← get) (.module module) name
    | none =>
      match (← get).globalsOf? v with
      | some space => pure fun name => do return ((← get).space space).names.find? name
      | none => pure fun _ => return none
  enclosingNames engine given place parts.dropLast

/-! ## Stored annotations -/

def isPostponedModule (engine : Engine) (v : Value) : Run Bool := do
  match ← moduleOf? engine v with
  | none => return false
  | some module =>
    match ← getAttribute? engine (.module module) "annotations" with
    | none => return false
    | some .none => return false
    | some mark =>
      return Value.equal (← getAttribute engine mark "compiler_flag") (.int 0x1000000)

def rawHints (engine : Engine) (v : Value) : Run Annotations := do
  return annotationsOfValue (← getAttribute engine v "__annotations__")

/-- The failures after which a value counts as having no types. -/
def meansNoHints (kind : FailureKind) : Bool :=
  kind == .attribute || kind == .type || kind == .recursion

/--
The types that a value stores.  An annotation with an unknown name leaves all
annotations as they are, and other failures mean that there are no types.
-/
def storedHints (engine : Engine) (replaced : List String) (name : String)
    (given : Names) (v : Value) : Run Annotations := do
  resolveGuards (guardSteps engine replaced) depthLimit v
  let given ← localNames engine given v
  let hints := do
    if ← isUnchecked engine v then plainHints engine given v
    else typeHints engine given v
  match ← Run.attempt hints with
  | .ok found => return found
  | .error f =>
    if meansNoHints f.kind then
      if f.kind == .type then
        if ← isPostponedModule engine v then
          if Text.contains "unsupported operand type" f.message then
            return ← rawHints engine v
      return []
    else if f.kind == .name then
      let module := match ← getAttribute? engine v "__module__" with
        | some home => home.plainText
        | none => "?"
      warn (.forwardReference name module f.message) (← locationOf? engine v)
      rawHints engine v
    else throw f

/-! ## Texts without a value to store them -/

/-- Evaluates texts one by one; one that fails stays a text. -/
def evaluateEach (engine : Engine) (given : Names) (module : String) :
    List (String × String) → Run Annotations
  | [] => return []
  | (name, text) :: rest => do
    let scope : Scope := { given := given, globals := ← spaceOf module }
    let v ← match ← (evaluateLoose engine scope text).attempt with
      | .ok v => pure v
      | .error _ => pure (.str text)
    return (name, v) :: (← evaluateEach engine given module rest)

def evaluationModule (engine : Engine) (owner : String) (v : Value) : Run String := do
  if owner.isEmpty then return (← textAttribute? engine v "__module__").getD ""
  else return owner

/-! ## All hints -/

/--
What documents the types of a class: its initialiser, its constructor, or the
class itself.
-/
def stubTarget (v : Value) : Run Value := do
  match v with
  | .cls c =>
    let init ← initOf c
    if !isDefault defaultInit init then return init
    let new ← newOf c
    if !isDefault defaultNew new then return new
    return v
  | _ => return v

def allHints (engine : Engine) (replaced : List String) (name : String)
    (given : Names) (v : Value) : Run Annotations := do
  let stored ← storedHints engine replaced name given v
  if !stored.isEmpty then return stored
  let target ← stubTarget v
  let comments ← commentHints engine target name
  let texts ←
    if comments.isEmpty then Stub.annotationsFor engine target else pure comments
  let context ←
    if comments.isEmpty && !texts.isEmpty then Stub.contextOf engine target
    else pure {}
  let names := context.withAliases (Entries.putAll context.names given)
  if ← storeAnnotations v (texts.map fun entry => (entry.1, .str entry.2)) then
    let found ← storedHints engine replaced name names v
    let _ ← storeAnnotations v found
    return found
  else evaluateEach engine names (← evaluationModule engine context.owner v) texts

def descriptorHint? (engine : Engine) (v : Value) : Run (Option Value) := do
  match ← Stub.descriptorFor? engine v with
  | none => return none
  | some text =>
    let context ← Stub.contextOf engine v
    let names := context.withAliases context.names
    let module ← evaluationModule engine context.owner v
    return (← evaluateEach engine names module [("return", text)]).head?.map (·.2)

/-! ## Instance variables -/

def instanceHints (engine : Engine) (c : ClassRef) : Run Annotations := do
  let init ← initOf c
  if isDefault defaultInit init then return []
  match ← (sourceOf engine init).attempt with
  | .error f => if isSourceFailure f then return [] else throw f
  | .ok source =>
    match instanceAttributes? source with
    | none => return []
    | some declared =>
      let module ← moduleOf? engine (.cls c)
      evaluateEach engine [] (module.getD "") declared

end DocHints.Hints
