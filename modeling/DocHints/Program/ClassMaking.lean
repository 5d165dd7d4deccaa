import DocHints.Program.Engine

/-!
# Making classes

A class is made from its bases and from the names that its body gave.
Enumerations, named tuples and classes with declared fields turn the names of
their bodies into something else.
-/

namespace DocHints.Program

/-! ## Bases -/

def tupleClass : ClassRef := ⟨"builtins", "tuple", .library, true⟩
def dictClass : ClassRef := ⟨"builtins", "dict", .library, true⟩

def formClasses : List (String × String × String) :=
  [("List", "builtins", "list"), ("Dict", "builtins", "dict"),
   ("Set", "builtins", "set"), ("FrozenSet", "builtins", "frozenset"),
   ("Tuple", "builtins", "tuple"), ("Type", "builtins", "type"),
   ("DefaultDict", "collections", "defaultdict"),
   ("OrderedDict", "collections", "OrderedDict"),
   ("Counter", "collections", "Counter"), ("ChainMap", "collections", "ChainMap"),
   ("Deque", "collections", "deque")]

/-- The class that a construct stands for; most of them are classes of containers. -/
def formClass (f : Form) : ClassRef :=
  match formClasses.find? (·.1 == f.name) with
  | some (_, home, name) => ⟨home, name, .library, true⟩
  | none => ⟨"collections.abc", f.name, .library, false⟩

inductive Base where
  | cls (c : ClassRef)
  | namedTuple
  | typedDict
  deriving DecidableEq, Repr

def baseOf (v : Value) : Outcome Base :=
  match v with
  | .cls c => .ok (.cls c)
  | .applied (.cls c) _ => .ok (.cls c)
  | .applied (.form f) _ => .ok (.cls (formClass f))
  | .form f => .ok (.cls (formClass f))
  | .indexed c _ => .ok (.cls c)
  | .routine _ _ "NamedTuple" => .ok .namedTuple
  | .routine _ _ "TypedDict" => .ok .typedDict
  | .instanceOf owner _ =>
    if isStandIn v then .ok (.cls owner)
    else .error (.misuse "bases must be types")
  | _ => .error (.misuse "bases must be types")

def Base.ref : Base → ClassRef
  | .cls c => c
  | .namedTuple => tupleClass
  | .typedDict => dictClass

/-! ## Lineages -/

/-- The heads of lineages that do not come later in another one. -/
def nextAncestor? (lines : List (List ClassRef)) : Option ClassRef :=
  (lines.filterMap List.head?).find? fun c => lines.all fun line =>
    !(line.drop 1).contains c

/--
Merges lineages so that each of them keeps its order.  `fuel` bounds the number
of classes; where the orders contradict each other the rest is dropped.
-/
def mergeLineages : Nat → List (List ClassRef) → List ClassRef
  | 0, _ => []
  | fuel + 1, lines =>
    let lines := lines.filter (!·.isEmpty)
    match nextAncestor? lines with
    | none => []
    | some c =>
      let shorter :=
        lines.map fun line => if line.head? == some c then line.drop 1 else line
      c :: mergeLineages fuel shorter

def World.lineageFrom (w : World) (c : ClassRef) (bases : List ClassRef) :
    List ClassRef :=
  let bases := if bases.isEmpty then [objectClass] else bases
  let lines := bases.map w.lineage
  c :: mergeLineages (lines.flatten.length + bases.length + 1) (lines ++ [bases])

/-! ## Subscription -/

def baseVariables (bases : List Value) : List Value :=
  let generic := bases.filter fun base =>
    match base with
    | .applied (.cls c) _ => Value.isGenericBase c
    | _ => false
  let sources := if generic.isEmpty then bases else generic
  Value.distinct Value.equal (Value.variablesOf sources)

def World.subscriptionFrom (w : World) (values : List Value) (bases : List ClassRef) :
    Subscription :=
  let found := baseVariables values
  if !found.isEmpty then .checked found.length
  else
    match bases.map w.subscription |>.find? (· != .refused) with
    | some (.checked _) => .checked 0
    | some other => other
    | none => if bases.any Value.isGenericBase then .checked 0 else .refused

/-! ## Enumerations -/

def isEnumBase (c : ClassRef) : Bool :=
  c.isEnumeration ||
    (c.origin == .library && c.module == "enum" &&
      ["Enum", "IntEnum", "StrEnum", "Flag", "IntFlag", "ReprEnum"].contains c.qualname)

def isAuto : Value → Bool
  | .instanceOf c _ => c.module == "enum" && c.qualname == "auto"
  | _ => false

def isMemberEntry (w : World) (entry : String × Value) : Bool :=
  !Text.startsWith "_" entry.1 && (w.object? entry.2).isNone

/-- The values of the members; a value left open is one more than the one before it. -/
def memberValues : Int → Names → Names
  | _, [] => []
  | last, (name, v) :: rest =>
    let v := if isAuto v then .int (last + 1) else v
    (name, v) :: memberValues (v.integer?.getD last) rest

def makeEnumeration (module qualname : String) (bases : List ClassRef) (names : Names)
    (annotations : Option Annotations) (source : Option Origin) : Run Value := do
  let w ← get
  let (members, others) := names.partition (isMemberEntry w)
  let ref : ClassRef := ⟨module, qualname, .enumerated (members.map (·.1)), false⟩
  let values :=
    (memberValues 0 members).map fun (name, v) => (name, Value.member ref name v)
  newClass {
    ref := ref
    lineage := w.lineageFrom ref bases
    names := values ++ others
    annotations := annotations
    source := source }
  return .cls ref

/-! ## Named tuples -/

def checkedFields (fields : Names) : Outcome Names :=
  fields.mapM fun (name, type) => do return (name, ← Value.checkType false type)

/--
The constructor of a named tuple lives in a space of its own that lacks the
builtins.
-/
def namedTupleNew (name : String) (fields : Names) (defaults : Names) : Run Value := do
  let space ← newSpace {
    names := [("__name__", .str ("namedtuple_" ++ name))]
    bare := true }
  let params := fields.map fun (field, _) =>
    (⟨field, .standard, none, defaults.find? field⟩ : SignatureParam)
  newObject (.function {
    name := "__new__"
    qualname := name ++ ".__new__"
    module := some ("namedtuple_" ++ name)
    params := ⟨"_cls", .standard, none, none⟩ :: params
    annotations := fields
    globals := space
    source := ⟨"<string>", none⟩ })

def makeNamedTuple (module qualname : String) (fields names : Names)
    (source : Option Origin) : Run Value := do
  let checked ← checkedFields fields
  let serial ← newSerial
  let ref : ClassRef := ⟨module, qualname, .defined serial, true⟩
  let new ← newObject (.staticMethod (← namedTupleNew ref.name checked names))
  newClass {
    ref := ref
    lineage := [ref, tupleClass, objectClass]
    names := Entries.put (names.filter fun entry => !fields.any (·.1 == entry.1))
      "__new__" new
    annotations := some checked
    subscription := .kept
    source := source }
  return .cls ref

/-! ## Ordinary classes -/

/-- Functions that a class treats as bound to itself, or as not bound at all. -/
def storedMember (entry : String × Value) : Run (String × Value) := do
  match (← get).object? entry.2 with
  | some (.function _) =>
    match entry.1 with
    | "__new__" => return (entry.1, ← newObject (.staticMethod entry.2))
    | "__init_subclass__" | "__class_getitem__" =>
      return (entry.1, ← newObject (.classMethod entry.2))
    | _ => return entry
  | _ => return entry

def slotNames : Value → List String
  | .str name => [name]
  | .tuple items =>
    items.filterMap fun item => match item with | .str s => some s | _ => none
  | .list items =>
    items.filterMap fun item => match item with | .str s => some s | _ => none
  | _ => []

def addSlots (ref : ClassRef) (slots : List String) (names : Names) : Run Names :=
  slots.foldlM (fun known name =>
    do return known.put name (← newObject (.slot ref name))) names

structure ClassPlan where
  module : String
  qualname : String
  /-- The bases as they were given. -/
  given : List Value
  bases : List ClassRef
  /-- Whether a class of classes was asked for. -/
  special : Bool
  names : Names
  annotations : Option Annotations
  source : Option Origin

def makePlainClass (plan : ClassPlan) : Run Value := do
  let serial ← newSerial
  let plain := !plan.special && plan.bases.all (·.plain)
  let ref : ClassRef := ⟨plan.module, plan.qualname, .defined serial, plain⟩
  let stored ← plan.names.mapM storedMember
  let slots := ((plan.names.find? "__slots__").map slotNames).getD []
  let names ← addSlots ref slots stored
  let w ← get
  newClass {
    ref := ref
    lineage := w.lineageFrom ref plan.bases
    names := names
    annotations := plan.annotations
    subscription := w.subscriptionFrom plan.given plan.bases
    source := plan.source }
  return .cls ref

def makeClass (plan : ClassPlan) (bases : List Base) : Run Value := do
  if bases.contains .namedTuple then
    makeNamedTuple plan.module plan.qualname (plan.annotations.getD []) plan.names
      plan.source
  else if bases.contains .typedDict then
    let fields ← checkedFields (plan.annotations.getD [])
    makePlainClass { plan with annotations := some fields, special := true }
  else if plan.bases.any isEnumBase then
    makeEnumeration plan.module plan.qualname plan.bases plan.names plan.annotations
      plan.source
  else makePlainClass plan

/-! ## Declared fields -/

def fieldClass : ClassRef := ⟨"dataclasses", "Field", .library, true⟩

structure FieldFact where
  name : String
  type : Value
  default : Option Value
  inInit : Bool
  byName : Bool
  deriving Inhabited

def isClassVariable : Value → Bool
  | .form f => f.name == "ClassVar"
  | .applied (.form f) _ => f.name == "ClassVar"
  | .str s => Text.startsWith "ClassVar" s || Text.startsWith "typing.ClassVar" s
  | _ => false

def flagAttribute (v : Value) (name : String) (default : Bool) : Bool :=
  match v.attribute? name with
  | some (.bool b) => b
  | _ => default

def fieldFact (name : String) (type : Value) (stored : Option Value) : FieldFact :=
  match stored with
  | some (.instanceOf c attributes) =>
    if c == fieldClass then
      let v := Value.instanceOf c attributes
      let default :=
        match v.attribute? "default" with
        | some d => some d
        | none => (v.attribute? "default_factory").map fun _ => Value.shown "<factory>"
      ⟨name, type, default, flagAttribute v "init" true,
        flagAttribute v "kw_only" false⟩
    else ⟨name, type, stored, true, false⟩
  | _ => ⟨name, type, stored, true, false⟩

def fieldInit (w : World) (info : Class) (fields : List FieldFact) : Function :=
  let shown := fields.filter (·.inInit)
  let standard := shown.filter (!·.byName)
  let byName := shown.filter (·.byName)
  let param (kind : Source.ParamKind) (f : FieldFact) : SignatureParam :=
    ⟨f.name, kind, none, f.default⟩
  { name := "__init__"
    qualname := info.ref.qualname ++ ".__init__"
    module := some info.ref.module
    params := ⟨"self", .standard, none, none⟩ ::
      (standard.map (param .standard) ++ byName.map (param .keywordOnly))
    annotations := (shown.map fun f => (f.name, f.type)) ++ [("return", .none)]
    globals := (w.moduleSpace? info.ref.module).getD 0
    source := ⟨"<string>", none⟩ }

def inheritedFields (w : World) (info : Class) : Names :=
  ((info.lineage.drop 1).reverse.filterMap fun c =>
    (w.class? c).bind fun ancestor =>
      if (ancestor.names.find? "__dataclass_fields__").isSome then
        ancestor.annotations
      else none).flatten

def makeFromFields (v : Value) (options : Names) : Run Value := do
  let w ← get
  match v with
  | .cls c =>
    match w.class? c with
    | none => return v
    | some info =>
      let declared :=
        (Entries.putAll (inheritedFields w info) (info.annotations.getD [])).filter
          fun entry => !isClassVariable entry.2
      let fields :=
        declared.map fun (name, type) => fieldFact name type (w.classMember? c name)
      let own := info.names.filterMap fun (name, stored) =>
        match stored with
        | .instanceOf owner _ =>
          if owner == fieldClass then
            (stored.attribute? "default").map fun d => (name, d)
          else some (name, stored)
        | _ => some (name, stored)
      let wanted := ((options.find? "init").map isTruthy).getD true
      let names : Names := Entries.put own "__dataclass_fields__" (.dict [])
      if wanted && (info.names.find? "__init__").isNone then
        let init ← newObject (.function (fieldInit w info fields))
        modify fun w => w.setClass { info with names := names.put "__init__" init }
      else modify fun w => w.setClass { info with names := names }
      return v
  | _ => return v

end DocHints.Program
