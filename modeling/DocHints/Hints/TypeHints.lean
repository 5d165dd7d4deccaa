import DocHints.Program.Inspect

/-!
# Types from stored annotations

The annotations that a function, a class or a module stores become types: a text
is an expression that is evaluated where the definition stands, and texts inside
types are evaluated likewise.  A text that leads back to itself stays a
reference.
-/

namespace DocHints.Hints

open Program

/-! ## References inside types -/

def checkTexts : List Value → Outcome Unit
  | [] => .ok ()
  | .str text :: rest => do
    let _ ← Value.toReference text
    checkTexts rest
  | _ :: rest => checkTexts rest

def joinBars : List Value → Outcome Value
  | [] => .ok (.bars [])
  | first :: rest => rest.foldlM Value.bar first

mutual

def resolveIn (resolve : String → Run Value) : Value → Run Value
  | .forwardRef text => resolve text
  | .applied head args => do return .applied head (← resolveAll resolve args)
  | .indexed c args => do
    checkTexts args
    return .indexed c (← resolveTexts resolve args)
  | .union members => do Value.unionOf (← resolveAll resolve members)
  | .bars members => do joinBars (← resolveAll resolve members)
  | .annotated base metadata => do
    match ← resolveIn resolve base with
    | .annotated inner first => return .annotated inner (first ++ metadata)
    | resolved => return .annotated resolved metadata
  | v => return v

def resolveAll (resolve : String → Run Value) : List Value → Run (List Value)
  | [] => return []
  | v :: rest => do
    let resolved ← resolveIn resolve v
    return resolved :: (← resolveAll resolve rest)

def resolveTexts (resolve : String → Run Value) : List Value → Run (List Value)
  | [] => return []
  | v :: rest => do
    let resolved ← match v with
      | .str text => resolve text
      | other => resolveIn resolve other
    return resolved :: (← resolveTexts resolve rest)

end

/--
The type that a text stands for.  `special` allows the marks of variables, and
`seen` are the texts that are being resolved.
-/
def resolveText (evaluate : String → Run Value) :
    Nat → Bool → List String → String → Run Value
  | 0, _, _, _ => throw .tooDeep
  | fuel + 1, special, seen, text => do
    if seen.contains text then return .forwardRef text
    let v ← evaluate text
    let checked ← Value.checkType special v
    resolveIn (resolveText evaluate fuel false (text :: seen)) checked

def resolveHint (evaluate : String → Run Value) (special : Bool) (v : Value) :
    Run Value := do
  match v with
  | .none => return Value.noneType
  | .str text =>
    let _ ← (Value.toReference text : Outcome Value)
    resolveText evaluate depthLimit special [] text
  | other => resolveIn (resolveText evaluate depthLimit false []) other

/-! ## Without metadata -/

mutual

def withoutMetadata : Value → Outcome Value
  | .annotated base _ => withoutMetadata base
  | .applied (.form f) args => do
    let args ← withoutMetadataAll args
    match f.name, args with
    | "Required", [single] => .ok single
    | "NotRequired", [single] => .ok single
    | _, _ => .ok (.applied (.form f) args)
  | .applied head args => do return .applied head (← withoutMetadataAll args)
  | .indexed c args => do return .indexed c (← withoutMetadataAll args)
  | .union members => do Value.unionOf (← withoutMetadataAll members)
  | .bars members => do joinBars (← withoutMetadataAll members)
  | v => .ok v

def withoutMetadataAll : List Value → Outcome (List Value)
  | [] => .ok []
  | v :: rest => do
    let bare ← withoutMetadata v
    return bare :: (← withoutMetadataAll rest)

end

/-! ## Expressions in texts -/

def evaluateText (engine : Engine) (scope : Scope) (text : String) : Run Value := do
  let compiled := if Text.startsWith "*" text then "(" ++ text ++ ",)[0]" else text
  engine.evaluate scope (← (Source.readExpression compiled : Outcome Source.Expr))

def evaluateLoose (engine : Engine) (scope : Scope) (text : String) : Run Value := do
  let bare := String.ofList (text.toList.dropWhile fun c => c == ' ' || c == '\t')
  engine.evaluate scope (← (Source.readExpression bare : Outcome Source.Expr))

/-! ## Hints of a value -/

def isUnchecked (engine : Engine) (v : Value) : Run Bool := do
  match ← getAttribute? engine v "__no_type_check__" with
  | some mark => return isTruthy mark && !isStandIn mark
  | none => return false

def resolveEntries (evaluate : String → Run Value) (special : Bool) :
    Annotations → Run Annotations
  | [] => return []
  | (name, v) :: rest => do
    let resolved ← resolveHint evaluate special v
    return (name, resolved) :: (← resolveEntries evaluate special rest)

def spaceOf (module : String) : Run Nat := do
  match (← get).moduleSpace? module with
  | some space => return space
  | none => newSpace {}

/--
The types of the variables that a class and its ancestors declare, the eldest
first.
-/
def classHints (engine : Engine) (given : Names) : List ClassRef → Run Annotations
  | [] => return []
  | c :: rest => do
    let inherited ← classHints engine given rest
    match ((← get).class? c).bind Class.annotations with
    | none => return inherited
    | some own =>
      let scope : Scope := { given := given, globals := ← spaceOf c.module }
      return Entries.putAll inherited
        (← resolveEntries (evaluateText engine scope) true own)

def mayLackAnnotations (v : Value) : Bool :=
  match v with
  | .routine _ _ _ => true
  | .module _ => true
  | .object h => h.kind == .function || h.kind == .method
  | _ => false

def evaluationSpace (engine : Engine) (v : Value) : Run Nat := do
  match v with
  | .module name => spaceOf name
  | _ =>
    match (← get).globalsOf? (← unwrap engine v) with
    | some space => return space
    | none => newSpace {}

/--
The types that a value stores.  `given` are names that come before all others.
Fails where an annotation cannot be evaluated, and for values that cannot have
annotations.
-/
def typeHints (engine : Engine) (given : Names) (v : Value) : Run Annotations := do
  if ← isUnchecked engine v then return []
  match v with
  | .cls c => classHints engine given ((← get).lineage c)
  | _ =>
    let space ← evaluationSpace engine v
    match ← annotationsOf? engine v with
    | none =>
      if mayLackAnnotations v then return []
      else throw (.misuse (v.text ++ " is not a module, class, method, or function."))
    | some stored =>
      resolveEntries (evaluateText engine { given := given, globals := space })
        false stored

def bareTypeHints (engine : Engine) (given : Names) (v : Value) : Run Annotations := do
  let hints ← typeHints engine given v
  hints.mapM fun (name, type) => do
    return (name, ← (withoutMetadata type : Outcome Value))

/-- The annotations of a value, of which only the texts are evaluated, and only once. -/
def plainHints (engine : Engine) (given : Names) (v : Value) : Run Annotations := do
  let space ← evaluationSpace engine v
  let scope : Scope := { given := given, globals := space }
  match ← annotationsOf? engine v with
  | none => return []
  | some stored =>
    stored.mapM fun (name, hint) => do
      match hint with
      | .str text => return (name, ← evaluateLoose engine scope text)
      | other => return (name, other)

end DocHints.Hints
