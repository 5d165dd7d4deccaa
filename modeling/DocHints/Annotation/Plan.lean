import DocHints.Annotation.Alias

/-!
# Rendering one node

How a single annotation is rendered, given the texts of its parts.  The plan of
a node is a text, the wish to expand an alias, or a list of parts together with
the way their texts are joined.
-/

namespace DocHints

def dataForms : List String :=
  ["Any", "AnyStr", "Callable", "ClassVar", "Literal", "NoReturn", "Optional",
    "Tuple", "Union"]

def dataTypes : List String :=
  ["AsyncGeneratorType", "BuiltinFunctionType", "BuiltinMethodType", "CellType",
   "ClassMethodDescriptorType", "CoroutineType", "EllipsisType", "FrameType",
   "FunctionType", "GeneratorType", "GetSetDescriptorType", "LambdaType",
   "MemberDescriptorType", "MethodDescriptorType", "MethodType",
   "MethodWrapperType", "NoneType", "NotImplementedType", "WrapperDescriptorType"]

def roleOf (module name : String) : String :=
  let isData :=
    (module == "typing" && dataForms.contains name)
      || (module == "types" && dataTypes.contains name)
  if isData then "data" else "class"

/-- How an annotation is rendered from its parts; only an alias can be expanded. -/
inductive Plan (v : Value) where
  | text (s : String)
  | expand (a : AliasRef) (isAlias : v = .typeAlias a)
  | join (parts : List (Value.Part v)) (finish : List String → String)

namespace Plan

def literalText (options : RenderOptions) (v : Value) : String :=
  match v with
  | .member owner name _ =>
    let home := options.fixModule owner.module
    let path := if home.isEmpty then owner.qualname ++ "." ++ name
      else home ++ "." ++ owner.qualname ++ "." ++ name
    ":py:attr:`" ++ options.markUnless home.isEmpty ++ path ++ "`"
  | other => "``" ++ other.text ++ "``"

def tupleText : List String → String
  | [] => "()"
  | [item] => "(" ++ item ++ ", )"
  | items => "(" ++ Text.join ", " items ++ ")"

/--
Where a stand-in leads to: a documented type of its name, or its name if it asks
for that.
-/
def aliasTarget? (options : RenderOptions) (name : String) (crossref : Option Bool) :
    Option String :=
  let documented :=
    match options.objects with
    | none => none
    | some objects =>
      [options.currentModule ++ "." ++ name, name].find?
        (RenderOptions.documentsType objects)
  match documented with
  | some candidate => some candidate
  | none => if crossref == some true then some name else none

def aliasNameText (options : RenderOptions) (name : String)
    (crossref : Option Bool) : String :=
  match aliasTarget? options name crossref with
  | some target => ":py:type:`" ++ options.shortMark ++ target ++ "`"
  | none => name

def isUnion : Value → Bool
  | .union _ => true
  | _ => false

def withoutNone {v : Value} (parts : List (Value.Part v)) : List (Value.Part v) :=
  parts.filter fun part => !part.1.isNoneType

/--
A callable has arguments, and the first of them does not stand for all
parameters.
-/
def listsParameters {v : Value} (parts : List (Value.Part v)) : Bool :=
  match parts with
  | [] => false
  | ⟨.ellipsis, _⟩ :: _ => false
  | _ => true

def referenceText (role mark fullName args : String) : String :=
  ":py:" ++ role ++ ":`" ++ mark ++ fullName ++ "`"
    ++ (if args.isEmpty then "" else "\\ ") ++ args

def variablePlan {v : Value} (args : List (Value.Part v))
    (reference : String → String) : Except Failure (Plan v) :=
  let build (x : Variable) : Plan v :=
    let bound := v.boundPart?
    let flags := match x.variance with
      | .invariant => ""
      | .covariant => ", covariant=True"
      | .contravariant => ", contravariant=True"
    .join (bound.toList ++ args) fun texts =>
      let boundText := if bound.isSome then ", bound= " ++ texts.headD "" else ""
      let argTexts := texts.drop bound.toList.length
      let inner := if args.isEmpty then "" else ", " ++ Text.join ", " argTexts
      reference ("\\(``" ++ x.name ++ "``" ++ inner ++ boundText ++ flags ++ ")")
  match v.asVariable with
  | some x => .ok (build x)
  | none => .error (.missingAttribute "object" "__bound__")

def documentedPath (options : RenderOptions) (home name : String) : String × String :=
  let fixed := options.fixModule home
  match options.pathMapping.find? (·.1 == fixed ++ "." ++ name) with
  | some (_, target) =>
    if target.isEmpty then (fixed, name)
    else (Text.splitLast? "." target).getD ("", target)
  | none => (fixed, name)

/--
The plan for a value that is documented under a path; `mark` is the mark of
references to it.
-/
def atPath (options : RenderOptions) {v : Value} (args : List (Value.Part v))
    (role mark path : String) : Except Failure (Plan v) :=
  let listed (role path : String) (parts : List (Value.Part v)) : Plan v :=
    .join parts fun texts =>
      referenceText role mark path
        (if parts.isEmpty then "" else "\\[" ++ Text.join ", " texts ++ "]")
  if path == "types.UnionType" || (options.barsUnion && isUnion v) then
    if args.isEmpty then .ok (.text (":py:data:`" ++ mark ++ "typing.Union`"))
    else .ok (.join args fun texts => Text.join " | " texts)
  else if path == "typing.NewType" then
    match v with
    | .newType home ownName base =>
      let home := options.fixModule home
      let qualified := if home.isEmpty then ownName else home ++ "." ++ ownName
      .ok (.join [⟨base, Value.sizeOf_lt_newType⟩] fun texts =>
        ":py:class:`" ++ options.markUnless home.isEmpty ++ qualified ++ "` ("
          ++ texts.headD ""
          ++ ")")
    | _ => .error (.missingAttribute "object" "__supertype__")
  else if path == "typing.Annotated" then
    match v with
    | .annotated base _ =>
      .ok (.join [⟨base, Value.sizeOf_lt_annotated⟩] fun texts => texts.headD "")
    | _ => .error (.missingAttribute "object" "__origin__")
  else if path == "typing.TypeVar" || path == "typing.ParamSpec" then
    variablePlan args (referenceText role mark path)
  else if path == "typing.Optional" then .ok (listed role path (withoutNone args))
  else if (path == "typing.Union" || path == "types.UnionType")
    && args.any (·.1.isNoneType) then
    if args.length == 2 then .ok (listed "data" "typing.Optional" (withoutNone args))
    else if options.simplifyOptional then .ok (listed role path args)
    else
      .ok (.join (withoutNone args) fun texts =>
        referenceText "data" mark "typing.Optional"
          ("\\[:py:data:`" ++ mark ++ "typing.Union`\\[" ++ Text.join ", " texts
            ++ "]]"))
  else if (path == "typing.Callable" || path == "collections.abc.Callable")
      && listsParameters args then
    .ok (.join args fun texts =>
      referenceText role mark path
        ("\\[\\[" ++ Text.join ", " texts.dropLast ++ "], " ++ texts.getLastD ""
          ++ "]"))
  else if path == "typing.Literal" then
    let values := args.map fun part => literalText options part.1
    if options.shortLiterals then .ok (.text ("\\" ++ Text.join " | " values))
    else .ok (.text
      (referenceText role mark path ("\\[" ++ Text.join ", " values ++ "]")))
  else .ok (listed role path args)

def ofDescription (options : RenderOptions) {v : Value} (d : Value.Description v) :
    Except Failure (Plan v) :=
  let (module, name) := documentedPath options d.module d.name
  let path := if module == "builtins" then name else module ++ "." ++ name
  atPath options d.args (roleOf module name) (options.markUnless (path == name)) path

/--
The plan for a value by its description; plain data have none, and show their
text.
-/
def byDescription (registry : Registry) (options : RenderOptions) (v : Value) :
    Except Failure (Plan v) :=
  if v.isNoneType then .ok (.text ":py:obj:`None`")
  else
    match v.describe registry with
    | .ok d => ofDescription options d
    | .error failure =>
      if failure.kind == .value then .ok (.text (Text.trimMark '\'' v.plainText))
      else .error failure

def ofValue (registry : Registry) (options : RenderOptions) (v : Value) :
    Except Failure (Plan v) :=
  let byRules : Except Failure (Plan v) :=
    match v with
    | .forwardRef ref => .ok (.text ref)
    | .none => .ok (.text ":py:obj:`None`")
    | .ellipsis => .ok (.text ":py:data:`...<Ellipsis>`")
    | .tuple items =>
      .ok (.join (Value.partsOf items
        (by simp only [Value.tuple.sizeOf_spec]; omega)) tupleText)
    | .aliasName name crossref => .ok (.text (aliasNameText options name crossref))
    | .typeAlias a =>
      match a.reference? registry options with
      | some reference => .ok (.text reference)
      | none => .ok (.expand a rfl)
    | v => byDescription registry options v
  match options.formatter with
  | none => byRules
  | some formatter =>
    match formatter.answer v with
    | .error failure => .error failure
    | .ok (some answer) => .ok (.text answer)
    | .ok none => byRules

end Plan

end DocHints
