import DocHints.Program.LibraryCall

/-!
# Calls

A call gives the arguments to the parameters and runs the body.  A class makes
an instance and initialises it.
-/

namespace DocHints.Program

/-! ## Arguments -/

/--
Gives the positional arguments to the positional parameters; the rest is left
over.
-/
def takePositional : List SignatureParam → List Value → Names × List Value
  | [], args => ([], args)
  | _, [] => ([], [])
  | param :: params, arg :: args =>
    let (taken, rest) := takePositional params args
    ((param.name, arg) :: taken, rest)

def fillDefault (function : String) (taken : Names) (param : SignatureParam) :
    Outcome Names :=
  if (taken.find? param.name).isSome then .ok taken
  else
    match param.default with
    | some v => .ok (taken.put param.name v)
    | none =>
      .error (.misuse
        (function ++ "() missing 1 required argument: " ++ Text.quote param.name))

def bindArguments (f : Function) (args : List Value) (keywords : Names) :
    Outcome Names := do
  let positional := f.params.filter Signature.isPositional
  let named :=
    f.params.filter fun param => param.kind == .standard || param.kind == .keywordOnly
  let (taken, rest) := takePositional positional args
  let variadic := f.params.find? (·.kind == .variadic)
  if variadic.isNone && !rest.isEmpty then
    throw (.misuse (f.qualname ++ "() takes " ++ toString positional.length
      ++ " positional arguments but " ++ toString args.length ++ " were given"))
  let (known, others) := keywords.partition fun entry => named.any (·.name == entry.1)
  let collects := f.params.find? (·.kind == .keywords)
  match others.head?, collects with
  | some entry, none =>
    throw (.misuse
      (f.qualname ++ "() got an unexpected keyword argument " ++ Text.quote entry.1))
  | _, _ => pure ()
  let single := f.params.filter fun param =>
    Signature.isPositional param || param.kind == .keywordOnly
  let filled ← single.foldlM (fillDefault f.qualname) (Entries.putAll taken known)
  let filled := match variadic with
    | some param => filled.put param.name (.tuple rest)
    | none => filled
  return match collects with
    | some param =>
      filled.put param.name (.dict (others.map fun entry => (.str entry.1, entry.2)))
    | none => filled

/-! ## Functions -/

def callFunction (engine : Engine) (f : Function) (args : List Value)
    (keywords : Names) : Run Value := do
  let names ← bindArguments f args keywords
  let space ← newSpace { names := names }
  let scope : Scope := {
    body := some space
    around := f.around
    globals := f.globals
    postponed := f.postponed
    file := f.source.file
    qualifier := f.qualname ++ ".<locals>." }
  match f.body with
  | .statements body =>
    match ← engine.execute scope body with
    | .giveBack v => return v
    | _ => return .none
  | .expression e => engine.evaluate scope e
  | .unknown => return .none

/-! ## Classes -/

def memberWith? (info : Class) (v : Value) : Option Value :=
  info.names.findSome? fun entry =>
    match entry.2 with
    | .member _ _ value => if Value.equal value v then some entry.2 else none
    | _ => none

def takesNothing (w : World) (c : ClassRef) (init : Value) : Bool :=
  Value.identical init defaultInit
    && (match w.classMember? c "__new__" with
        | some new => Value.identical new defaultNew
        | none => true)
    && (w.lineage c).all fun d => d.origin != .library || d == objectClass

def makeInstance (engine : Engine) (c : ClassRef) (args : List Value)
    (keywords : Names) : Run Value := do
  let self ← newObject (.instanceOf c [("args", .tuple args)])
  let w ← get
  match w.classMember? c "__init__" with
  | some init =>
    if (w.function? init).isSome then
      let _ ← engine.call init (self :: args) keywords
    else if takesNothing w c init && !(args.isEmpty && keywords.isEmpty) then
      throw (.misuse (c.name ++ "() takes no arguments"))
  | none => pure ()
  return self

def callClass (engine : Engine) (c : ClassRef) (args : List Value) (keywords : Names) :
    Run Value := do
  match (← get).class? c with
  | some info =>
    if c.isEnumeration then
      match args with
      | [v] =>
        match memberWith? info v with
        | some member => return member
        | none => throw (.badValue (v.text ++ " is not a valid " ++ c.qualname))
      | _ => return .none
    else makeInstance engine c args keywords
  | none => callLibraryClass c args keywords

/-! ## Calls of any value -/

def finishPending (step : Pending) (arg : Value) : Run Value :=
  match step with
  | .wraps model => wrap arg model
  | .wrapper => wrapperOf arg
  | .dataclass options => makeFromFields arg options
  | .identity => return arg
  | .property getter => newObject (.property getter)

def notCallable (v : Value) : Failure :=
  .misuse (Text.quote v.className ++ " object is not callable")

/-- A stand-in used as a decorator gives back what it decorates. -/
def callStandIn (w : World) (v : Value) (args : List Value) : Value :=
  match args with
  | arg :: _ => if isClass arg || (w.function? arg).isSome then arg else v
  | [] => v

def callWith (engine : Engine) (v : Value) (args : List Value) (keywords : Names) :
    Run Value := do
  let w ← get
  match v with
  | .cls c => callClass engine c args keywords
  | .routine _ module qualname => callRoutine engine module qualname args keywords
  | .indexed c _ => callClass engine c args keywords
  | .newType _ _ _ => return args.headD .none
  | .object _ =>
    match w.object? v with
    | some (.function f) => callFunction engine f args keywords
    | some (.method f receiver) => engine.call f (receiver :: args) keywords
    | some (.staticMethod f) => engine.call f args keywords
    | some (.partialCall f given named _) =>
      engine.call f (given ++ args) (Entries.putAll named keywords)
    | some (.pending step) => finishPending step (args.headD .none)
    | some (.instanceOf owner _) =>
      match w.classMember? owner "__call__" with
      | some f => engine.call f (v :: args) keywords
      | none => throw (notCallable v)
    | _ => throw (notCallable v)
  | .instanceOf _ _ =>
    if isStandIn v then return callStandIn w v args else throw (notCallable v)
  | _ => throw (notCallable v)

end DocHints.Program
