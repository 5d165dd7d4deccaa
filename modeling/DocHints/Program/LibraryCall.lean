import DocHints.Program.ClassMaking

/-!
# Calls into the library

What the functions and classes of the library give back, as far as definitions
of a module need it: variables and new types, decorators, wrappers, paths, and
the making of classes.
-/

namespace DocHints.Program

/-! ## Wrappers -/

def wrap (wrapper model : Value) : Run Value := do
  let w ← get
  match wrapper, w.function? wrapper with
  | .object h, some f =>
    let shown : Function :=
      match w.function? model with
      | some g =>
        { f with
          name := g.name
          qualname := g.qualname
          module := g.module
          annotations := g.annotations
          attributes := Entries.putAll f.attributes g.attributes }
      | none =>
        match model with
        | .cls c =>
          { f with
            name := c.name
            qualname := c.qualname
            module := some c.module
            annotations := ((w.class? c).bind Class.annotations).getD [] }
        | _ => f
    let shown :=
      { shown with attributes := Entries.put shown.attributes "__wrapped__" model }
    set (w.setObject h.serial (.function shown))
    return .object { h with module := shown.module.getD "", qualname := shown.qualname }
  | _, _ => return wrapper

def wrapperOf (model : Value) : Run Value := do
  let space ← newSpace {}
  let wrapper ← newObject (.function {
    name := "wrapper"
    qualname := "wrapper"
    module := none
    params := [⟨"args", .variadic, none, none⟩, ⟨"kwds", .keywords, none, none⟩]
    globals := space
    source := ⟨"<string>", none⟩ })
  wrap wrapper model

/-! ## Marks -/

def markUnchecked (v : Value) : Run Value := do
  match v with
  | .cls c =>
    match (← get).class? c with
    | some info =>
      for entry in info.names do
        if ((← get).function? entry.2).isSome then
          setAttribute entry.2 "__no_type_check__" (.bool true)
      setAttribute v "__no_type_check__" (.bool true)
    | none => pure ()
  | _ =>
    if ((← get).function? v).isSome then setAttribute v "__no_type_check__" (.bool true)
  return v

/-! ## Paths -/

def splitPath (path : String) : String × String :=
  match Text.splitLast? "/" path with
  | some (head, tail) => (if head.isEmpty then "/" else head, tail)
  | none => ("", path)

/-- Joins two paths; an absolute second one stands alone. -/
def joinPath (first second : String) : String :=
  if Text.startsWith "/" second then second
  else if first.isEmpty || Text.endsWith "/" first then first ++ second
  else first ++ "/" ++ second

def pathCall (name : String) (args : List Value) : Value :=
  let texts := args.filterMap fun arg => match arg with | .str s => some s | _ => none
  match name, texts with
  | "join", first :: rest => .str (rest.foldl joinPath first)
  | "dirname", path :: _ => .str (splitPath path).1
  | "basename", path :: _ => .str (splitPath path).2
  | _, path :: _ => .str path
  | _, [] => .none

/-! ## Functions -/

def argument (args : List Value) (keywords : Names) (index : Nat) (name : String) :
    Option Value :=
  match args[index]? with
  | some v => some v
  | none => keywords.find? name

def fieldNames : Value → List String
  | .str text => Text.words (Text.replaceAll "," " " text)
  | v => slotNames v

def namedTupleFields (v : Value) : Names :=
  match v with
  | .list items => items.filterMap fun item =>
      match item with
      | .tuple [.str name, type] => some (name, type)
      | .str name => some (name, .cls Value.anyClass)
      | _ => none
  | v => (fieldNames v).map fun name => (name, .cls Value.anyClass)

def objectField (attributes : Names) : Value :=
  .instanceOf fieldClass attributes

def callRoutine (engine : Engine) (module qualname : String) (args : List Value)
    (keywords : Names) : Run Value := do
  let first := args.head?
  match module, qualname with
  | "typing", "overload" => return .routine .scripted "typing" "_overload_dummy"
  | "typing", "no_type_check" => markUnchecked (first.getD .none)
  | "typing", "cast" => return (args[1]?).getD .none
  | "typing", "NamedTuple" =>
    match args with
    | .str name :: fields :: _ =>
      makeNamedTuple (← get).running name (namedTupleFields fields) [] none
    | _ => return .none
  | "typing", "TypedDict" =>
    match args with
    | .str name :: .dict fields :: _ =>
      let fields := fields.filterMap fun entry =>
        match entry.1 with
        | .str field => some (field, entry.2)
        | _ => none
      makeClass ⟨(← get).running, name, [], [dictClass], true, [], some fields,
        none⟩ [.typedDict]
    | _ => return .none
  | "collections", "namedtuple" =>
    match args with
    | .str name :: fields :: _ =>
      let untyped := (fieldNames fields).map fun f => (f, Value.cls Value.anyClass)
      makeNamedTuple (← get).running name untyped [] none
    | _ => return .none
  | "functools", "wraps" => newObject (.pending (.wraps (first.getD .none)))
  | "functools", "update_wrapper" => wrap (first.getD .none) ((args[1]?).getD .none)
  | "functools", "lru_cache" =>
    match first with
    | some f =>
      if (← get).isCallable f then wrapperOf f else newObject (.pending .wrapper)
    | none => newObject (.pending .wrapper)
  | "functools", "cache" => wrapperOf (first.getD .none)
  | "contextlib", "contextmanager" => wrapperOf (first.getD .none)
  | "contextlib", "asynccontextmanager" => wrapperOf (first.getD .none)
  | "dataclasses", "dataclass" =>
    match first with
    | some c => makeFromFields c keywords
    | none => newObject (.pending (.dataclass keywords))
  | "dataclasses", "field" => return objectField keywords
  | "importlib", "import_module" =>
    match first with
    | some (.str name) => engine.load name
    | _ => return .none
  | "posixpath", name => return pathCall name args
  | "builtins", "len" =>
    match first with
    | some (.str s) => return .int s.length
    | some (.list items) => return .int items.length
    | some (.tuple items) => return .int items.length
    | some (.dict entries) => return .int entries.length
    | some v =>
      throw (.misuse ("object of type " ++ Text.quote v.className ++ " has no len()"))
    | none => throw (.misuse "len() takes exactly one argument (0 given)")
  | "builtins", "getattr" =>
    match args with
    | v :: .str name :: rest =>
      match ← getAttribute? engine v name, rest with
      | some found, _ => return found
      | none, default :: _ => return default
      | none, [] => throw (.missingAttribute (ownerText v) name)
    | _ => throw (.misuse "getattr expected at least 2 arguments")
  | "builtins", "hasattr" =>
    match args with
    | [v, .str name] => return .bool (← getAttribute? engine v name).isSome
    | _ => throw (.misuse "hasattr expected 2 arguments")
  | "builtins", "setattr" =>
    match args with
    | [v, .str name, content] =>
      setAttribute v name content
      return .none
    | _ => throw (.misuse "setattr expected 3 arguments")
  | "builtins", "callable" => return .bool ((← get).isCallable (first.getD .none))
  | "builtins", "repr" => return .str (first.getD .none).text
  | "builtins", "print" => return .none
  | "abc", _ => return first.getD .none
  | "atexit", _ => return first.getD .none
  | "typing", _ => return first.getD .none
  | "typing_extensions", _ => return first.getD .none
  | "functools", "total_ordering" => return first.getD .none
  | _, _ => return .none

/-! ## Classes -/

def classOf (v : Value) : Value :=
  let builtin (name : String) : Value := .cls ⟨"builtins", name, .library, true⟩
  match v with
  | .none => Value.noneType
  | .bool _ => builtin "bool"
  | .int _ => builtin "int"
  | .float _ => builtin "float"
  | .str _ => builtin "str"
  | .bytes _ => builtin "bytes"
  | .list _ => builtin "list"
  | .tuple _ => builtin "tuple"
  | .dict _ => builtin "dict"
  | .cls _ => builtin "type"
  | .ellipsis => builtin "ellipsis"
  | .member owner _ _ => .cls owner
  | .instanceOf owner _ => .cls owner
  | .object h =>
    match h.kind with
    | .function => builtin "function"
    | .method => builtin "method"
    | .property => builtin "property"
    | _ => builtin "object"
  | _ => builtin "object"

def boolOption (keywords : Names) (name : String) : Bool :=
  ((keywords.find? name).map isTruthy).getD false

def callLibraryClass (c : ClassRef) (args : List Value) (keywords : Names) :
    Run Value := do
  let first := args.head?
  let module := (← get).running
  let made : Value := .instanceOf c (("args", .tuple args) :: keywords)
  match c.module, c.qualname with
  | "typing", "TypeVar" | "typing_extensions", "TypeVar" =>
    match args with
    | .str name :: constraints =>
      let bound := (keywords.find? "bound").filter (!·.isNone)
      Value.typeVarOf module name ((← newSerial) + 1) bound constraints
        (boolOption keywords "covariant") (boolOption keywords "contravariant")
    | _ => throw (.misuse "TypeVar() takes a name")
  | "typing", "ParamSpec" | "typing_extensions", "ParamSpec" =>
    match args with
    | .str name :: _ =>
      let bound := (keywords.find? "bound").filter (!·.isNone)
      Value.paramSpecOf module name ((← newSerial) + 1) bound
        (boolOption keywords "covariant") (boolOption keywords "contravariant")
    | _ => throw (.misuse "ParamSpec() takes a name")
  | "typing", "NewType" | "typing_extensions", "NewType" =>
    match args with
    | [.str name, base] => return .newType module name base
    | _ => throw (.misuse "NewType() takes a name and a type")
  | "typing", "ForwardRef" =>
    match first with
    | some (.str text) => Value.toReference text
    | _ => throw (.misuse "Forward reference must be a string")
  | "typing_extensions", "Doc" =>
    match argument args keywords 0 "documentation" with
    | some (.str text) => return .doc text
    | _ => throw (.misuse "Doc() takes a text")
  | "typing_extensions", "TypeAliasType" =>
    match args with
    | .str name :: value :: _ =>
      let key := module ++ "." ++ name ++ "#" ++ toString (← newSerial)
      modify fun w => { w with aliases := w.aliases ++ [(key, value)] }
      return .typeAlias ⟨key, module, name⟩
    | _ => throw (.misuse "TypeAliasType() takes a name and a value")
  | "functools", "partial" =>
    match args with
    | f :: rest => newObject (.partialCall f rest keywords [])
    | [] => throw (.misuse "type 'partial' takes at least one argument")
  | "builtins", "property" => newObject (.property (first.getD .none))
  | "builtins", "classmethod" => newObject (.classMethod (first.getD .none))
  | "builtins", "staticmethod" => newObject (.staticMethod (first.getD .none))
  | "builtins", "type" =>
    match args with
    | [v] => return classOf v
    | [.str name, .tuple bases, .dict entries] =>
      let refs ← bases.mapM fun base => (baseOf base : Outcome Base)
      let names := entries.filterMap fun entry =>
        match entry.1 with
        | .str field => some (field, entry.2)
        | _ => none
      makeClass ⟨module, name, bases, refs.map Base.ref, false, names, none, none⟩ refs
    | _ => throw (.misuse "type() takes 1 or 3 arguments")
  | "builtins", "list" => return .list (((first.bind fun v => match v with
      | .list items => some items | .tuple items => some items | _ => none)).getD [])
  | "builtins", "tuple" => return .tuple (((first.bind fun v => match v with
      | .list items => some items | .tuple items => some items | _ => none)).getD [])
  | "builtins", "dict" =>
    return .dict (keywords.map fun entry => (.str entry.1, entry.2))
  | "builtins", "str" => return .str ((first.map Value.plainText).getD "")
  | "builtins", "bool" => return .bool ((first.map isTruthy).getD false)
  | "builtins", "int" =>
    match first with
    | none => return .int 0
    | some (.str s) =>
      match s.toInt? with
      | some n => return .int n
      | none =>
        throw (.badValue ("invalid literal for int() with base 10: " ++ Text.quote s))
    | some v => return .int (v.integer?.getD 0)
  | "builtins", "super" => return standIn "builtins" "super"
  | _, _ => return made

end DocHints.Program
