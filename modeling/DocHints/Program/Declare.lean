import DocHints.Program.Inspect

/-!
# Modules from declarations

A module can be made without a source, from declarations of what it holds.  Its
functions have parameters and annotations and no body.
-/

namespace DocHints.Program

inductive Wrapping where
  | plain
  | classMethod
  | staticMethod
  | property
  deriving DecidableEq, Repr, Inhabited

structure DeclaredFunction where
  name : String
  /-- A qualified name other than the one that follows from the place. -/
  qualname : Option String := none
  params : List SignatureParam
  result : Option Value := none
  wrapping : Wrapping := .plain
  /-- Whether the annotations are marked as no types. -/
  unchecked : Bool := false
  /-- Whether the function names itself as the one that it wraps. -/
  loops : Bool := false
  deriving Repr, Inhabited

inductive Declaration where
  | function (f : DeclaredFunction)
  | wrapper (f : DeclaredFunction) (behind : Declaration)
  | classDef (name : String) (slots : List String) (members : List Declaration)
  deriving Inhabited

structure Place where
  module : String
  space : Nat
  /-- The file that the functions name as theirs. -/
  file : String
  /-- What qualified names start with. -/
  qualifier : String := ""

def DeclaredFunction.annotations (f : DeclaredFunction) : Annotations :=
  f.params.filterMap (fun param => param.hint.map fun hint => (param.name, hint))
    ++ (f.result.map fun hint => ("return", hint)).toList

def declareFunction (place : Place) (f : DeclaredFunction) (behind : Option Value) :
    Run Value := do
  let v ← newObject (.function {
    name := f.name
    qualname := f.qualname.getD (place.qualifier ++ f.name)
    module := some place.module
    params := f.params
    annotations := f.annotations
    globals := place.space
    source := ⟨place.file, none⟩ })
  if f.unchecked then setAttribute v "__no_type_check__" (.bool true)
  if f.loops then setAttribute v "__wrapped__" v
  match behind with
  | some inner => setAttribute v "__wrapped__" inner
  | none => pure ()
  match f.wrapping with
  | .plain => return v
  | .classMethod => newObject (.classMethod v)
  | .staticMethod => newObject (.staticMethod v)
  | .property => newObject (.property v)

def memberName (className name : String) : String :=
  if Text.startsWith "__" name && !Text.endsWith "__" name then "_" ++ className ++ name
  else name

mutual

def declare (place : Place) : Declaration → Run (String × Value)
  | .function f => do return (f.name, ← declareFunction place f none)
  | .wrapper f behind => do
    let (_, inner) ← declare place behind
    return (f.name, ← declareFunction place f (some inner))
  | .classDef name slots members => do
    let qualname := place.qualifier ++ name
    let names ← declareAll { place with qualifier := qualname ++ "." } members
    let stored := names.map fun (member, v) => (memberName name member, v)
    let reserved : Names := if slots.isEmpty then []
      else [("__slots__", .tuple (slots.map Value.str))]
    let v ← makePlainClass {
      module := place.module
      qualname := qualname
      given := []
      bases := []
      special := false
      names := Entries.putAll reserved stored
      annotations := none
      source := none }
    return (name, v)

def declareAll (place : Place) : List Declaration → Run Names
  | [] => return []
  | d :: rest => do
    let made ← declare place d
    return made :: (← declareAll place rest)

end

/-- Makes a module; one that is not registered is not found by its name. -/
def declareModule (name file : String) (registered : Bool) (names : Names)
    (declarations : List Declaration) : Run Nat := do
  let space ← newSpace { names := Entries.putAll [("__name__", .str name)] names }
  if registered then modify fun w => { w with modules := (name, space) :: w.modules }
  for d in declarations do
    let (member, v) ← declare ⟨name, space, file, ""⟩ d
    setName space member v
  return space

/-! ## Finding values by their paths -/

def storedAttribute (engine : Engine) (v : Value) (name : String) : Run Value := do
  match v with
  | .cls c =>
    match (← get).classMember? c name with
    | some stored => return stored
    | none => getAttribute engine v name
  | _ => getAttribute engine v name

/-- Follows a path of names; the last step may take a value as it is stored. -/
def valueAt (engine : Engine) (stored : Bool) : Value → List String → Run Value
  | v, [] => return v
  | v, [name] =>
    if stored then storedAttribute engine v name else getAttribute engine v name
  | v, name :: rest => do valueAt engine stored (← getAttribute engine v name) rest

def valueIn (engine : Engine) (stored : Bool) (space : Nat) : List String → Run Value
  | [] => throw (.missingAttribute "module" "")
  | name :: rest => do
    match ((← get).space space).names.find? name with
    | some v => valueAt engine stored v rest
    | none => throw (.missingAttribute "module" name)

def addOverload (module qualname : String) (signature : Signature) : Run Unit :=
  modify fun w =>
    let known := ((w.overloads.find? (·.1 == module)).map (·.2)).getD []
    let earlier := ((known.find? (·.1 == qualname)).map (·.2)).getD []
    let others := known.filter (·.1 != qualname)
    let rest := w.overloads.filter (·.1 != module)
    { w with overloads := (module,
      others ++ [(qualname, earlier ++ [signature])]) :: rest }

end DocHints.Program
