import DocHints.Program.Import
import DocHints.Text.Lines

/-!
# Looking at values

The module, the source, the place and the signature of a value, and the
annotations that it stores.
-/

namespace DocHints.Program

/-! ## Modules -/

def moduleOf? (engine : Engine) (v : Value) : Run (Option String) := do
  match v with
  | .module name => return some name
  | _ =>
    match ← getAttribute? engine v "__module__" with
    | some (.str name) => return if (← get).isLoaded name then some name else none
    | _ => return none

def World.globalsOf? (w : World) (v : Value) : Option Nat :=
  match w.object? v with
  | some (.function f) => some f.globals
  | some (.method f _) => (w.function? f).map Function.globals
  | _ => none

/-! ## Wrapped values -/

def wrapped? (engine : Engine) (v : Value) : Run (Option Value) := do
  if isStandIn v then return none
  match v with
  | .object _ => getAttribute? engine v "__wrapped__"
  | _ => return none

/-- Follows wrappers to the value behind them; `seen` are the values passed so far. -/
def unwrapFrom (engine : Engine) : Nat → List Value → Value → Run Value
  | 0, _, _ => throw (.badValue "wrapper loop when unwrapping")
  | fuel + 1, seen, v => do
    match ← wrapped? engine v with
    | none => return v
    | some inner =>
      if seen.any (Value.identical inner) then
        throw (.badValue ("wrapper loop when unwrapping " ++ v.text))
      else unwrapFrom engine fuel (inner :: seen) inner

/-- The value behind all wrappers; wrappers in a circle have none. -/
def unwrap (engine : Engine) (v : Value) : Run Value :=
  unwrapFrom engine depthLimit [v] v

/-! ## Sources -/

/-- Where the code of a value stands; fails for values without code. -/
def originOf (v : Value) : Run Origin := do
  let w ← get
  let noCode : Run Origin :=
    throw (.misuse "a module, class, method or function was expected")
  match v with
  | .module name =>
    match w.moduleName? name "__file__" with
    | some (.str file) => return ⟨file, some (0, 0)⟩
    | _ => noCode
  | .cls c =>
    match w.moduleName? c.module "__file__" with
    | some (.str file) =>
      match (w.class? c).bind Class.source with
      | some source => return { source with file := file }
      | none => return ⟨file, none⟩
    | _ => noCode
  | _ =>
    match w.object? v with
    | some (.function f) => return f.source
    | some (.method f _) =>
      match w.function? f with
      | some info => return info.source
      | none => noCode
    | _ => noCode

def cutLines (source : String) (first last : Nat) : String :=
  let lines := Text.linesOf source
  Text.join "" (((lines.take last).drop (first - 1)).map (· ++ "\n"))

def sourceOf (engine : Engine) (v : Value) : Run String := do
  let origin ← originOf (← unwrap engine v)
  let source := ((← get).file? origin.file).getD ""
  match v, origin.lines with
  | _, none => throw (.unavailable "could not get source code")
  | .module _, some _ =>
    if source.isEmpty then throw (.unavailable "could not get source code")
    return if Text.endsWith "\n" source then source else source ++ "\n"
  | _, some (first, last) =>
    if source.isEmpty then throw (.unavailable "could not get source code")
    return cutLines source first last

/-- The line where the source of a value starts; modules start at zero. -/
def firstLine (engine : Engine) (v : Value) : Run Nat := do
  let origin ← originOf (← unwrap engine v)
  let source := ((← get).file? origin.file).getD ""
  match origin.lines with
  | some (first, _) =>
    if source.isEmpty then throw (.unavailable "could not get source code")
    else return first
  | none => throw (.unavailable "could not get source code")

def isSourceFailure (f : Failure) : Bool :=
  f.kind == .system || f.kind == .type

def locationOf? (engine : Engine) (v : Value) : Run (Option String) := do
  match ← (originOf v).attempt with
  | .error f => if f.kind == .type then return none else throw f
  | .ok origin =>
    match ← (firstLine engine v).attempt with
    | .ok line => return some (origin.file ++ ":" ++ toString line)
    | .error f => if isSourceFailure f then return some origin.file else throw f

/-! ## Annotations -/

def annotationsOf? (engine : Engine) (v : Value) : Run (Option Annotations) := do
  match v with
  | .module _ =>
    match ← find v "__annotations__" with
    | .value stored => return some (annotationsOfValue stored)
    | _ => return some []
  | _ =>
    match ← getAttribute? engine v "__annotations__" with
    | some stored => return some (annotationsOfValue stored)
    | none => return none

/-- Stores annotations on a value; tells whether it takes them. -/
def storeAnnotations (v : Value) (annotations : Annotations) : Run Bool := do
  let w ← get
  match v with
  | .module name =>
    match w.moduleSpace? name with
    | some space =>
      setName space "__annotations__" (annotationsValue annotations)
      return true
    | none => return true
  | .cls c =>
    match w.class? c with
    | some info =>
      set (w.setClass { info with
        names := info.names.remove "__annotations__"
        annotations := some annotations })
      return true
    | none => return false
  | .newType _ _ _ => return true
  | .object h =>
    match w.object? v with
    | some (.function f) =>
      set (w.setObject h.serial (.function { f with annotations := annotations }))
      return true
    | some (.instanceOf owner attributes) =>
      match (w.classMember? owner "__annotations__").bind w.object? with
      | some (.property _) => return false
      | _ =>
        if (w.classMember? owner "__slots__").isSome then return false
        set (w.setObject h.serial
          (.instanceOf owner
            (attributes.put "__annotations__" (annotationsValue annotations))))
        return true
    | some (.partialCall f args keywords attributes) =>
      set (w.setObject h.serial (.partialCall f args keywords
        (attributes.put "__annotations__" (annotationsValue annotations))))
      return true
    | some (.staticMethod _) => return true
    | some (.classMethod _) => return true
    | _ => return false
  | _ => return false

/-! ## Constructors -/

def constructorOf (c : ClassRef) (name : String) (default : Value) : Run Value := do
  match ← findInClass c name with
  | .value v => return v
  | _ => return default

def initOf (c : ClassRef) : Run Value :=
  constructorOf c "__init__" defaultInit

def newOf (c : ClassRef) : Run Value :=
  constructorOf c "__new__" defaultNew

def isDefault (default v : Value) : Bool :=
  Value.identical default v

/-! ## Signatures -/

def openParams : List SignatureParam :=
  [⟨"args", .variadic, none, none⟩, ⟨"kwargs", .keywords, none, none⟩]

def routineSignature? (kind : Routine) (module qualname : String) : Option Signature :=
  let positional (names : List String) : List SignatureParam :=
    names.map fun name => ⟨name, .positionalOnly, none, none⟩
  match kind, module, qualname with
  | .builtin, "", _ =>
    if Text.endsWith ".__new__" qualname then some ⟨openParams, none⟩
    else some ⟨positional ["self"] ++ openParams, none⟩
  | .builtin, "builtins", "len" => some ⟨positional ["obj"], none⟩
  | .builtin, "math", "sqrt" => some ⟨positional ["x"], none⟩
  | .scripted, "enum", "Enum.__init__" =>
    some ⟨[⟨"self", .standard, none, none⟩, ⟨"args", .variadic, none, none⟩,
      ⟨"kwds", .keywords, none, none⟩], none⟩
  | .scripted, "typing", "Any.__new__" =>
    some ⟨⟨"cls", .standard, none, none⟩ :: openParams, none⟩
  | .scripted, "typing", "_overload_dummy" =>
    some ⟨[⟨"args", .variadic, none, none⟩, ⟨"kwds", .keywords, none, none⟩], none⟩
  | _, _, _ => none

def noSignature (v : Value) : Failure :=
  .badValue ("no signature found for " ++ v.text)

def functionSignature (f : Function) : Signature where
  params := f.params.map fun param =>
    { param with hint := Entries.find? f.annotations param.name }
  result := Entries.find? f.annotations "return"

/--
Gives the named arguments as defaults.  From the first of them on, parameters
can be given by name only.
-/
def giveByName (keywords : Names) : Bool → List SignatureParam → List SignatureParam
  | _, [] => []
  | named, param :: rest =>
    match keywords.find? param.name with
    | some v =>
      { param with kind := .keywordOnly, default := some v } ::
        giveByName keywords true rest
    | none =>
      let kind := if named && param.kind == .standard then .keywordOnly else param.kind
      { param with kind := kind } :: giveByName keywords named rest

def partialSignature (signature : Signature) (args : List Value)
    (keywords : Names) : Signature :=
  let positional := (signature.params.takeWhile Signature.isPositional).length
  { signature with
    params := giveByName keywords false
      (signature.params.drop (min args.length positional)) }

def boundSignature (signature : Signature) : Run Signature :=
  match signature.bound with
  | some s => return s
  | none => throw (.badValue "invalid method signature")

/-- The signature of a value; `fuel` bounds the values that it leads to. -/
def signatureFrom (engine : Engine) : Nat → Value → Run Signature
  | 0, v => throw (noSignature v)
  | fuel + 1, v => do
    let w ← get
    if !w.isCallable v then throw (.misuse (v.text ++ " is not a callable object"))
    match w.object? v with
    | some (.method f _) => boundSignature (← signatureFrom engine fuel f)
    | _ =>
      let v ← unwrap engine v
      match v with
      | .routine kind module qualname =>
        match routineSignature? kind module qualname with
        | some s => return s
        | none => throw (noSignature v)
      | .cls c =>
        let new ← newOf c
        let init ← initOf c
        let w ← get
        if (w.function? new).isSome || (isAnyClass c) then
          boundSignature (← signatureFrom engine fuel new)
        else if (w.function? init).isSome then
          boundSignature (← signatureFrom engine fuel init)
        else if isDefault defaultInit init && isDefault defaultNew new then
          return ⟨[], none⟩
        else throw (noSignature v)
      | _ =>
        match w.object? v with
        | some (.function f) => return functionSignature f
        | some (.method f _) => boundSignature (← signatureFrom engine fuel f)
        | some (.staticMethod f) => signatureFrom engine fuel f
        | some (.partialCall f args keywords _) =>
          return partialSignature (← signatureFrom engine fuel f) args keywords
        | some (.instanceOf owner _) =>
          let _ ← annotationsOf? engine v
          match (← get).classMember? owner "__call__" with
          | some f => boundSignature (← signatureFrom engine fuel f)
          | none => throw (noSignature v)
        | _ => throw (noSignature v)

def signatureOf (engine : Engine) (v : Value) : Run Signature :=
  signatureFrom engine depthLimit v

end DocHints.Program
