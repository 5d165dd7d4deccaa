import DocHints.Annotation.Describe
import DocHints.Source.Parser.Stmt

/-!
# Building annotations

Arguments for constructs and classes, unions, literals and variables.  The
constructs of the type vocabulary check and normalise what they are given:
nothing becomes its class, a text becomes a reference that is looked up later,
unions are flat and free of repetitions.  A class outside that vocabulary keeps
its arguments as they are.
-/

namespace DocHints

abbrev Outcome := Except Failure

inductive Subscription where
  | refused
  | kept
  | checked (count : Nat)
  deriving DecidableEq, Repr

def ClassRef.librarySubscription (c : ClassRef) : Subscription :=
  match c.origin with
  | .declared => .kept
  | .library =>
    match Library.checkedArity? c with
    | some count => .checked count
    | none => if Library.takesArguments c then .kept else .refused
  | _ => .refused

namespace Value

/-! ## Checked types -/

def toReference (text : String) : Outcome Value :=
  match text.toList with
  | [] => .error (.outOfRange "string index out of range")
  | c :: _ =>
    let compiled := if c == '*' then "(" ++ text ++ ",)[0]" else text
    match Source.readExpression compiled with
    | .ok _ => .ok (.forwardRef text)
    | .error _ =>
      .error (.malformed
        ("Forward reference must be an expression -- got " ++ Text.quote text))

/-- Nothing becomes its class and a text a reference. -/
def convert : Value → Outcome Value
  | .none => .ok noneType
  | .str text => toReference text
  | v => .ok v

def genericClass : ClassRef := ⟨"typing", "Generic", .library, true⟩
def protocolClass : ClassRef := ⟨"typing", "Protocol", .library, false⟩
def annotatedClass : ClassRef := ⟨"typing", "Annotated", .library, true⟩

def isGenericBase (c : ClassRef) : Bool :=
  c == genericClass || c == protocolClass

def standsAlone (f : Form) : Bool :=
  ["LiteralString", "NoReturn", "Never", "Self", "TypeAlias"].contains f.name

def isSpecialForm (f : Form) : Bool :=
  f.module != "typing" || Library.specialForms.contains f.name

/--
A type as the argument of a construct.  `special` allows the marks of variables,
which are not types themselves.
-/
def checkType (special : Bool) (v : Value) : Outcome Value := do
  let v ← convert v
  match v with
  | .applied (.cls c) _ =>
    if isGenericBase c then
      .error (.misuse (v.text ++ " is not valid as type argument"))
    else .ok v
  | .applied (.form f) _ =>
    if !special && (f.name == "ClassVar" || f.name == "Final") then
      .error (.misuse (v.text ++ " is not valid as type argument"))
    else .ok v
  | .form f =>
    if standsAlone f then .ok v
    else if special && (f.name == "ClassVar" || f.name == "Final") then .ok v
    else if isSpecialForm f then
      .error (.misuse ("Plain " ++ v.text ++ " is not valid as type argument"))
    else .ok v
  | .cls c =>
    if isGenericBase c then
      .error (.misuse ("Plain " ++ v.text ++ " is not valid as type argument"))
    else .ok v
  | .tuple _ => .error (.misuse ("a type is expected. Got " ++ v.text ++ "."))
  | _ => .ok v

/-! ## Unions and literals -/

def flattenUnion (members : List Value) : List Value :=
  members.flatMap fun member =>
    match member with
    | .union inner => inner
    | .bars inner => inner
    | other => [other]

/--
The union of checked types: flat, without repetitions, and a single type is that
type.
-/
def unionOfTypes (members : List Value) : Outcome Value :=
  let flat := flattenUnion members
  if !allHashable flat then .error (.misuse "unhashable type")
  else
    match distinct equal flat with
    | [single] => .ok single
    | rest => .ok (.union rest)

def unionOf (members : List Value) : Outcome Value := do
  if members.isEmpty then .error (.misuse "Cannot take a Union of no types.")
  else unionOfTypes (← members.mapM (checkType false))

def optionalOf (v : Value) : Outcome Value := do
  unionOf [← checkType false v, noneType]

/--
Literals inside literals are flattened, repetitions are dropped where all can be
compared.
-/
def literalOf (values : List Value) : Value :=
  let flat := values.flatMap fun value =>
    match value with
    | .literal inner => inner
    | other => [other]
  .literal (if allHashable flat then distinct sameLiteral flat else flat)

/-- Metadata of metadata is one list of metadata. -/
def annotatedOf (base : Value) (metadata : List Value) : Outcome Value := do
  match ← checkType true base with
  | .annotated inner first => .ok (.annotated inner (first ++ metadata))
  | checked =>
    if checked.home?.isSome then .ok (.annotated checked metadata)
    else .error (.missingAttribute "object" "__module__")

/-! ## Callables -/

def isConcatenation : Value → Bool
  | .applied (.form f) _ => f.name == "Concatenate"
  | _ => false

def isParameterExpression : Value → Bool
  | .ellipsis => true
  | .paramSpec _ _ => true
  | v => isConcatenation v

/-- A checked callable; its parameters are a list or one item that stands for them. -/
def callableOf (params result : Value) : Outcome Value := do
  let head : Value := .form ⟨"typing", "Callable"⟩
  let result ← checkType false result
  match params with
  | .ellipsis => .ok (.applied head [.ellipsis, result])
  | .list items => .ok (.applied head ((← items.mapM convert) ++ [result]))
  | .tuple items => .ok (.applied head ((← items.mapM convert) ++ [result]))
  | single => .ok (.applied head [← convert single, result])

def keptCallableOf (c : ClassRef) (params result : Value) : Outcome Value :=
  match params with
  | .list items => .ok (.indexed c (items ++ [result]))
  | .tuple items => .ok (.indexed c (items ++ [result]))
  | single =>
    if isParameterExpression single then .ok (.indexed c [single, result])
    else .error (.misuse
      "Expected a list of types, an ellipsis, ParamSpec, or Concatenate.")

/-! ## Variables -/

/-- A type variable; bounds and constraints exclude each other. -/
def typeVarOf (module name : String) (serial : Nat) (bound : Option Value)
    (constraints : List Value) (covariant contravariant : Bool) : Outcome Value := do
  if covariant && contravariant then
    .error (.badValue "Bivariant types are not supported.")
  else
    let checkedBound ← bound.mapM (checkType false)
    if !constraints.isEmpty && bound.isSome then
      .error (.misuse "Constraints cannot be combined with bound=...")
    else if constraints.length == 1 then
      .error (.misuse "A single constraint is not allowed")
    else
      let variance : Variance :=
        if covariant then .covariant
        else if contravariant then .contravariant
        else .invariant
      .ok (.typeVar ⟨module, name, serial, variance⟩ checkedBound
        (← constraints.mapM (checkType false)))

def paramSpecOf (module name : String) (serial : Nat) (bound : Option Value)
    (covariant contravariant : Bool) : Outcome Value := do
  if covariant && contravariant then
    .error (.badValue "Bivariant types are not supported.")
  else
    let variance : Variance :=
      if covariant then .covariant
      else if contravariant then .contravariant
      else .invariant
    .ok (.paramSpec ⟨module, name, serial, variance⟩ (← bound.mapM (checkType false)))

mutual

def substitute (table : List (Value × Value)) : Value → Value
  | .typeVar v bound constraints =>
    match table.find? fun entry => equal entry.1 (.typeVar v bound constraints) with
    | some entry => entry.2
    | Option.none => .typeVar v bound constraints
  | .paramSpec v bound =>
    match table.find? fun entry => equal entry.1 (.paramSpec v bound) with
    | some entry => entry.2
    | Option.none => .paramSpec v bound
  | .applied head args => .applied head (substituteAll table args)
  | .indexed c args => .indexed c (substituteAll table args)
  | .union members =>
    match distinct equal (flattenUnion (substituteAll table members)) with
    | [single] => single
    | rest => .union rest
  | .bars members =>
    match distinct equal (flattenUnion (substituteAll table members)) with
    | [single] => single
    | rest => .bars rest
  | .annotated base metadata => .annotated (substitute table base) metadata
  | v => v

def substituteAll (table : List (Value × Value)) : List Value → List Value
  | [] => []
  | v :: rest => substitute table v :: substituteAll table rest

end

def wrongCount (head : Value) (actual expected : Nat) : Failure :=
  .misuse ("Too " ++ (if expected < actual then "many" else "few")
    ++ " arguments for " ++ head.text
    ++ "; actual " ++ toString actual ++ ", expected " ++ toString expected)

def specialise (v : Value) (args : List Value) : Outcome Value :=
  let free := freeVariables v
  if free.isEmpty then .error (.misuse (v.text ++ " is not a generic class"))
  else if free.length != args.length then .error (wrongCount v args.length free.length)
  else .ok (substitute (free.zip args) v)

/-! ## Subscripts -/

def indexItems : Value → List Value
  | .tuple items => items
  | single => [single]

def subscriptContainer (f : Form) (index : Value) : Outcome Value := do
  let head : Value := .form f
  match f.name with
  | "Tuple" =>
    match index with
    | .tuple [] => .ok (.applied head [])
    | _ =>
      let items := indexItems index
      match items.getLast? with
      | some .ellipsis =>
        if 2 ≤ items.length then
          .ok (.applied head ((← items.dropLast.mapM (checkType false)) ++ [.ellipsis]))
        else .ok (.applied head (← items.mapM (checkType false)))
      | _ => .ok (.applied head (← items.mapM (checkType false)))
  | "Callable" =>
    match index with
    | .tuple [params, result] => callableOf params result
    | _ => .error (.misuse "Callable must be used as Callable[[arg, ...], result].")
  | _ =>
    let args ← (indexItems index).mapM (checkType false)
    match (Library.containerForms.find? (·.1 == f.name)).bind (·.2) with
    | some 0 => .error (.misuse (head.text ++ " is not a generic class"))
    | some count =>
      if args.length == count then .ok (.applied head args)
      else .error (wrongCount head args.length count)
    | Option.none => .ok (.applied head args)

def subscriptForm (f : Form) (index : Value) : Outcome Value := do
  let head : Value := .form f
  if !isSpecialForm f then subscriptContainer f index
  else
    match f.name with
    | "Union" => unionOf (indexItems index)
    | "Optional" =>
      match index with
      | .tuple _ =>
        .error (.misuse
          (head.text ++ " requires a single type. Got " ++ index.text ++ "."))
      | _ => optionalOf index
    | "Literal" => .ok (literalOf (indexItems index))
    | "Concatenate" =>
      let items := indexItems index
      match items.getLast? with
      | Option.none => .error (.misuse "Cannot take a Concatenate of no types.")
      | some last =>
        match last with
        | .ellipsis =>
          .ok (.applied head ((← items.dropLast.mapM (checkType false)) ++ [last]))
        | .paramSpec _ _ =>
          .ok (.applied head ((← items.dropLast.mapM (checkType false)) ++ [last]))
        | _ =>
          .error (.misuse
            ("The last parameter to Concatenate should be a ParamSpec variable "
            ++ "or ellipsis."))
    | _ =>
      if standsAlone f then .error (.misuse (head.text ++ " is not subscriptable"))
      else .ok (.applied head [← checkType false index])

def className : Value → String
  | .none => "NoneType"
  | .ellipsis => "ellipsis"
  | .notImplemented => "NotImplementedType"
  | .bool _ => "bool"
  | .int _ => "int"
  | .float _ => "float"
  | .str _ => "str"
  | .bytes _ => "bytes"
  | .list _ => "list"
  | .tuple _ => "tuple"
  | .dict _ => "dict"
  | .cls c => if c.plain then "type" else "ABCMeta"
  | .member owner _ _ => owner.name
  | .module _ => "module"
  | .indexed _ _ => "types.GenericAlias"
  | .bars _ => "types.UnionType"
  | .typeVar _ _ _ => "TypeVar"
  | .paramSpec _ _ => "ParamSpec"
  | .newType _ _ _ => "NewType"
  | .forwardRef _ => "ForwardRef"
  | .aliasName _ crossref =>
    if crossref.isSome then "MyTypeAliasForwardRef" else "TypeAliasForwardRef"
  | .instanceOf owner _ => owner.name
  | .routine .builtin _ _ => "builtin_function_or_method"
  | .routine .scripted _ _ => "function"
  | .object h =>
    match h.kind with
    | .function => "function"
    | .method => "method"
    | .property => "property"
    | .classMethod => "classmethod"
    | .staticMethod => "staticmethod"
    | .slot => "member_descriptor"
    | .partialCall => "functools.partial"
    | .instanceOf => Text.lastPart h.qualname
  | _ => "object"

def isVariable : Value → Bool
  | .typeVar _ _ _ => true
  | .paramSpec _ _ => true
  | _ => false

def subscriptClass (rules : ClassRef → Subscription) (c : ClassRef) (index : Value) :
    Outcome Value := do
  if isGenericBase c then
    let params ← (indexItems index).mapM convert
    if params.isEmpty then
      .error (.misuse "Parameter list to Generic[...] cannot be empty")
    else if !params.all isVariable then
      .error (.misuse
        ("Parameters to Generic[...] must all be type variables or parameter "
        ++ "specification variables."))
    else if (distinct equal params).length != params.length then
      .error (.misuse "Parameters to Generic[...] must all be unique")
    else .ok (.applied (.cls c) params)
  else if c == annotatedClass then
    match index with
    | .tuple (base :: first :: rest) => annotatedOf base (first :: rest)
    | _ =>
      .error (.misuse
        ("Annotated[...] should be used with at least two arguments (a type and an "
        ++ "annotation)."))
  else if isCallableClass c then
    match index with
    | .tuple [params, result] => keptCallableOf c params result
    | _ => .error (.misuse "Callable must be used as Callable[[arg, ...], result].")
  else
    match c.origin with
    | .enumerated members =>
      match index with
      | .str name =>
        if members.contains name then .ok (.member c name (.int 1))
        else .error (.missingKey index)
      | _ => .error (.missingKey index)
    | _ =>
      match rules c with
      | .kept => .ok (.indexed c (indexItems index))
      | .checked count =>
        let args ← (indexItems index).mapM convert
        if count == 0 then .error (.misuse (classText c ++ " is not a generic class"))
        else if args.length == count then .ok (.applied (.cls c) args)
        else .error (wrongCount (.cls c) args.length count)
      | .refused =>
        .error (.misuse ("type " ++ Text.quote c.typeName ++ " is not subscriptable"))

def itemAt (items : List Value) (position : Int) (kind : String) : Outcome Value :=
  let place := if position < 0 then position + items.length else position
  if place < 0 then .error (.outOfRange (kind ++ " index out of range"))
  else
    match items[place.toNat]? with
    | some item => .ok item
    | Option.none => .error (.outOfRange (kind ++ " index out of range"))

def subscript (rules : ClassRef → Subscription) (head index : Value) :
    Outcome Value := do
  match head with
  | .cls c => subscriptClass rules c index
  | .form f => subscriptForm f index
  | .typeAlias _ => .ok (.applied head (← (indexItems index).mapM (checkType false)))
  | .applied (.cls c) _ =>
    if isGenericBase c then
      .error (.misuse ("Cannot subscript already-subscripted " ++ head.text))
    else specialise head (← (indexItems index).mapM convert)
  | .applied _ _ => specialise head (← (indexItems index).mapM convert)
  | .union _ => specialise head (← (indexItems index).mapM convert)
  | .literal _ => .error (.misuse (head.text ++ " is not a generic class"))
  | .annotated _ _ => specialise head (← (indexItems index).mapM convert)
  | .indexed _ _ => specialise head (indexItems index)
  | .bars _ => specialise head (indexItems index)
  | .list items =>
    match index.integer? with
    | some position => itemAt items position "list"
    | Option.none => .error (.misuse "list indices must be integers or slices")
  | .tuple items =>
    match index.integer? with
    | some position => itemAt items position "tuple"
    | Option.none => .error (.misuse "tuple indices must be integers or slices")
  | .dict entries =>
    match entries.find? fun entry => equal entry.1 index with
    | some entry => .ok entry.2
    | Option.none => .error (.missingKey index)
  | _ => .error (.misuse ("'" ++ head.className ++ "' object is not subscriptable"))

/-! ## Bars -/

def joinsByBar : Value → Bool
  | .none => true
  | .cls _ => true
  | .indexed _ _ => true
  | .bars _ => true
  | _ => false

/--
The constructs that make a checked union of whatever stands on the other side of
a bar.
-/
def joinsFromEitherSide : Value → Bool
  | .form _ => true
  | .applied _ _ => true
  | .union _ => true
  | .literal _ => true
  | .annotated _ _ => true
  | .typeVar _ _ _ => true
  | .paramSpec _ _ => true
  | .newType _ _ _ => true
  | .forwardRef _ => true
  | .typeAlias _ => true
  | _ => false

/-- A stand-in of the second kind joins only what stands on its right. -/
def joinsFromLeft : Value → Bool
  | .aliasName _ (some _) => true
  | v => joinsFromEitherSide v

def bar (left right : Value) : Outcome Value :=
  if joinsFromLeft left then unionOf [left, right]
  else if joinsByBar left && joinsByBar right && !(isNone left && isNone right) then
    let members := flattenUnion [left, right] |>.map fun member =>
      if isNone member then noneType else member
    match distinct equal members with
    | [single] => .ok single
    | rest => .ok (.bars rest)
  else if joinsFromEitherSide right then unionOf [left, right]
  else
    match left, right with
    | .bool a, .bool b => .ok (.bool (a || b))
    | _, _ => .error (.unsupportedBar left.className right.className)

end Value

end DocHints
