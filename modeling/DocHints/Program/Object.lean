import DocHints.Program.World

/-!
# Attributes

What a value has under a name.  A class looks through its lineage; an instance
first has attributes of its own, and a function found in its class is bound to
it.  A property is computed, which needs a call, so it is found without being
called.
-/

namespace DocHints.Program

/-! ## Library classes -/

def objectClass : ClassRef := ⟨"builtins", "object", .library, true⟩

def ownMethod (c : ClassRef) (name : String) : Value :=
  .routine .builtin "" (c.qualname ++ "." ++ name)

def defaultInit : Value := ownMethod objectClass "__init__"

def defaultNew : Value := ownMethod objectClass "__new__"

def initialisedClasses : List (String × String) :=
  ["BaseException", "Exception", "bytearray", "dict", "list", "property", "set",
   "super", "type", "classmethod", "staticmethod", "map", "reversed", "slice"].map
     fun name => ("builtins", name)

def constructedClasses : List (String × String) :=
  ("functools", "partial") ::
  ["BaseException", "Exception", "bool", "bytes", "complex", "dict", "enumerate",
   "filter", "float", "frozenset", "int", "list", "map", "range", "reversed", "set",
   "slice", "str", "super", "tuple", "type", "zip", "bytearray", "classmethod",
   "staticmethod", "property"].map fun name =>
    ("builtins", name)

def librarySlots : List (String × String × List String) :=
  [("array", "array", ["itemsize", "typecode"]),
   ("builtins", "complex", ["imag", "real"]),
   ("builtins", "float", ["imag", "real"]),
   ("builtins", "int", ["denominator", "imag", "numerator", "real"]),
   ("builtins", "range", ["start", "step", "stop"]),
   ("builtins", "slice", ["start", "step", "stop"]),
   ("datetime", "date", ["day", "month", "year"]),
   ("functools", "partial", ["args", "func", "keywords"])]

def isLibrarySlot (c : ClassRef) (name : String) : Bool :=
  librarySlots.any fun entry =>
    entry.1 == c.module && entry.2.1 == c.qualname && entry.2.2.contains name

def isAnyClass (c : ClassRef) : Bool :=
  c.origin == .library && c.module == "typing" && c.qualname == "Any"

def libraryMember? (c : ClassRef) (name : String) : Option Value :=
  if c == objectClass then
    match name with
    | "__init__" => some defaultInit
    | "__new__" => some defaultNew
    | _ => none
  else
    match name with
    | "__init__" =>
      if c.module == "enum" && c.qualname == "Enum" then
        some (.routine .scripted "enum" "Enum.__init__")
      else if initialisedClasses.contains (c.module, c.qualname) then
        some (ownMethod c name)
      else none
    | "__new__" =>
      if isAnyClass c then some (.routine .scripted "typing" "Any.__new__")
      else if constructedClasses.contains (c.module, c.qualname) then
        some (ownMethod c name)
      else none
    | _ => none

/-! ## Classes -/

def World.lineage (w : World) (c : ClassRef) : List ClassRef :=
  match w.class? c with
  | some info => info.lineage
  | none => if c == objectClass then [c] else [c, objectClass]

def World.ownMember? (w : World) (c : ClassRef) (name : String) : Option Value :=
  match w.class? c with
  | some info => info.names.find? name
  | none =>
    match c.origin with
    | .enumerated members =>
      if members.contains name then some (.member c name (.int 1)) else none
    | .library => libraryMember? c name
    | _ => none

def World.classMember? (w : World) (c : ClassRef) (name : String) : Option Value :=
  (w.lineage c).findSome? fun d => w.ownMember? d name

/-! ## Finding attributes -/

inductive Found where
  | value (v : Value)
  /-- A property: its getter is called with the receiver. -/
  | computed (getter receiver : Value)
  | missing
  deriving Inhabited

def Found.ofOption : Option Value → Found
  | some v => .value v
  | none => .missing

def annotationsValue (annotations : Annotations) : Value :=
  .dict (annotations.map fun entry => (.str entry.1, entry.2))

def bindToClass (c : ClassRef) (stored : Value) : Run Value := do
  match (← get).object? stored with
  | some (.classMethod f) => newObject (.method f (.cls c))
  | some (.staticMethod f) => return f
  | _ => return stored

def bindToInstance (c : ClassRef) (receiver stored : Value) : Run Found := do
  match (← get).object? stored with
  | some (.function _) => return .value (← newObject (.method stored receiver))
  | some (.property getter) => return .computed getter receiver
  | _ => return .value (← bindToClass c stored)

def findInClass (c : ClassRef) (name : String) : Run Found := do
  match name with
  | "__name__" => return .value (.str c.name)
  | "__qualname__" => return .value (.str c.qualname)
  | "__module__" => return .value (.str c.module)
  | "__annotations__" =>
    match (← get).class? c with
    | some info => return .value (annotationsValue (info.annotations.getD []))
    | none => return .missing
  | _ =>
    match (← get).classMember? c name with
    | some stored => return .value (← bindToClass c stored)
    | none =>
      if isLibrarySlot c name then return .value (← newObject (.slot c name))
      else return .missing

def findInFunction (f : Function) (name : String) : Found :=
  match name with
  | "__name__" => .value (.str f.name)
  | "__qualname__" => .value (.str f.qualname)
  | "__module__" => .value ((f.module.map Value.str).getD .none)
  | "__annotations__" => .value (annotationsValue f.annotations)
  | "__doc__" => .value .none
  | _ => .ofOption (f.attributes.find? name)

def findInInstance (self : Value) (owner : ClassRef) (attributes : Names)
    (name : String) : Run Found := do
  let w ← get
  match w.classMember? owner name with
  | some stored =>
    match w.object? stored with
    | some (.property getter) => return .computed getter self
    | _ =>
      match attributes.find? name with
      | some v => return .value v
      | none => bindToInstance owner self stored
  | none =>
    match attributes.find? name with
    | some v => return .value v
    | none =>
      match name with
      | "__module__" => return .value (.str owner.module)
      | "__class__" => return .value (.cls owner)
      | "__annotations__" =>
        return .ofOption ((w.lineage owner).findSome? fun c =>
          ((w.class? c).bind Class.annotations).map annotationsValue)
      | _ => return .missing

/-- The pieces of a property that are given later; each keeps the getter. -/
def findInProperty (getter : Value) (name : String) : Run Found := do
  match name with
  | "fget" => return .value getter
  | "getter" | "setter" | "deleter" =>
    return .value (← newObject (.pending (.property getter)))
  | "fset" | "fdel" | "__doc__" => return .value .none
  | _ => return .missing

def findInObject (self : Value) (o : Object) (name : String) : Run Found := do
  let w ← get
  let inner (f : Value) : Found :=
    match w.function? f with
    | some info => findInFunction info name
    | none => .missing
  match o with
  | .function f => return findInFunction f name
  | .method f receiver =>
    match name with
    | "__func__" => return .value f
    | "__self__" => return .value receiver
    | _ => return inner f
  | .property getter => findInProperty getter name
  | .classMethod f =>
    return if name == "__func__" || name == "__wrapped__" then .value f else inner f
  | .staticMethod f =>
    return if name == "__func__" || name == "__wrapped__" then .value f else inner f
  | .slot owner field =>
    match name with
    | "__name__" => return .value (.str field)
    | "__qualname__" => return .value (.str (owner.qualname ++ "." ++ field))
    | "__objclass__" => return .value (.cls owner)
    | _ => return .missing
  | .partialCall f args keywords attributes =>
    match name with
    | "func" => return .value f
    | "args" => return .value (.tuple args)
    | "keywords" => return .value (annotationsValue keywords)
    | "__module__" => return .value (.str "functools")
    | _ => return .ofOption (attributes.find? name)
  | .pending _ => return .missing
  | .instanceOf owner attributes => findInInstance self owner attributes name

/-- The attribute that only stand-ins have. -/
def standInMark : String := "__standin__"

def standIn (module name : String) : Value :=
  .instanceOf ⟨module, name, .declared, true⟩
    [("__qualname__", .str name), ("__module__", .str module), ("__name__", .str name),
     (standInMark, .bool true)]

def isStandIn (v : Value) : Bool :=
  (v.attribute? standInMark).isSome

def find (v : Value) (name : String) : Run Found := do
  let w ← get
  match v with
  | .module module =>
    match w.moduleSpace? module with
    | some space => return .ofOption ((w.space space).names.find? name)
    | none =>
      if name == "__name__" then return .value (.str module)
      else return .ofOption (Library.attribute? module name)
  | .cls c => findInClass c name
  | .object _ =>
    match w.object? v with
    | some o => findInObject v o name
    | none => return .missing
  | .instanceOf owner attributes =>
    match v.attribute? name with
    | some found => return .value found
    | none =>
      if isStandIn v then
        let home := ((v.textAttribute? "__module__").map (· ++ ".")).getD ""
        return .value (standIn (home ++ owner.qualname) name)
      else findInInstance v owner attributes name
  | .member owner field value =>
    match name with
    | "name" => return .value (.str field)
    | "value" => return .value value
    | "__module__" => return .value (.str owner.module)
    | _ => findInInstance v owner [] name
  | .paramSpec p _ =>
    match name with
    | "args" => return .value (.paramArgs p)
    | "kwargs" => return .value (.paramKwargs p)
    | "__name__" => return .value (.str p.name)
    | "__module__" => return .value (.str p.module)
    | _ => return .missing
  | .typeVar x _ _ =>
    match name with
    | "__name__" => return .value (.str x.name)
    | "__module__" => return .value (.str x.module)
    | _ => return .missing
  | .indexed c args =>
    match name with
    | "__origin__" => return .value (.cls c)
    | "__args__" => return .value (.tuple args)
    | _ => findInClass c name
  | _ =>
    match name with
    | "__module__" => return .ofOption ((v.home?.filter (!·.isEmpty)).map Value.str)
    | "__qualname__" =>
      match v with
      | .routine _ _ qualname => return .value (.str qualname)
      | .newType _ field _ => return .value (.str field)
      | .form f => return .value (.str f.name)
      | _ => return .missing
    | "__name__" =>
      match v with
      | .routine _ _ qualname => return .value (.str (Text.lastPart qualname))
      | .newType _ field _ => return .value (.str field)
      | _ => return .missing
    | _ => return .missing

def ownerText : Value → String
  | .module module => "module " ++ Text.quote module
  | .cls c => "type object " ++ Text.quote c.typeName
  | v => Text.quote v.className ++ " object"

/-! ## Changing attributes -/

/-- Gives a value an attribute; fails for values that cannot have any. -/
def setAttribute (v : Value) (name : String) (content : Value) : Run Unit := do
  let w ← get
  let refuse : Run Unit := throw (.missingAttribute (ownerText v) name)
  match v with
  | .module module =>
    match w.moduleSpace? module with
    | some space => setName space name content
    | none => refuse
  | .cls c =>
    match w.class? c with
    | some info => set (w.setClass { info with names := info.names.put name content })
    | none =>
      throw (.misuse
        ("cannot set " ++ Text.quote name ++ " attribute of immutable type "
        ++ Text.quote c.name))
  | .object h =>
    match w.object? v with
    | some (.function f) =>
      match name, content with
      | "__name__", .str s =>
        set (w.setObject h.serial (.function { f with name := s }))
      | "__qualname__", .str s =>
        set (w.setObject h.serial (.function { f with qualname := s }))
      | "__module__", .str s =>
        set (w.setObject h.serial (.function { f with module := some s }))
      | _, _ =>
        set (w.setObject h.serial
          (.function { f with attributes := f.attributes.put name content }))
    | some (.instanceOf owner attributes) =>
      set (w.setObject h.serial (.instanceOf owner (attributes.put name content)))
    | some (.partialCall f args keywords attributes) =>
      set (w.setObject h.serial
        (.partialCall f args keywords (attributes.put name content)))
    | _ => refuse
  | _ => refuse

/-! ## Calls -/

def World.isCallable (w : World) (v : Value) : Bool :=
  match v with
  | .cls _ => true
  | .routine _ _ _ => true
  | .form _ => true
  | .applied _ _ => true
  | .indexed _ _ => true
  | .union _ => true
  | .literal _ => true
  | .annotated _ _ => true
  | .newType _ _ _ => true
  | .aliasName _ _ => true
  | .typeAlias _ => true
  | .instanceOf owner _ => isStandIn v || (w.classMember? owner "__call__").isSome
  | .object _ =>
    match w.object? v with
    | some (.function _) => true
    | some (.method _ _) => true
    | some (.staticMethod _) => true
    | some (.partialCall _ _ _ _) => true
    | some (.pending _) => true
    | some (.instanceOf owner _) => (w.classMember? owner "__call__").isSome
    | _ => false
  | _ => false

def isClass : Value → Bool
  | .cls _ => true
  | _ => false

end DocHints.Program
