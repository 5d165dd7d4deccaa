import DocHints.Library.Lookup
import DocHints.Failure
import DocHints.Value.Variables

/-!
# Describing annotations

A value used as an annotation is described by the module it belongs to, its name
there and its arguments.  Plain data belong to no module, and cannot be
described.
-/

namespace DocHints

/--
A loaded module with its members.  `genuine` is false for a stand-in of another
kind.
-/
structure Loaded where
  name : String
  genuine : Bool
  members : List (String × Value)
  deriving Inhabited

abbrev Registry := List Loaded

def Registry.loaded? (registry : Registry) (name : String) : Option Loaded :=
  List.find? (·.name == name) registry

def Loaded.member? (loaded : Loaded) (name : String) : Option Value :=
  (loaded.members.find? (·.1 == name)).map (·.2)

def Registry.member? (registry : Registry) (module name : String) : Option Value :=
  match registry.loaded? module with
  | some loaded => loaded.member? name
  | none => Library.attribute? module name

namespace Value

def attribute? (name : String) : Value → Option Value
  | .instanceOf _ attributes => (attributes.find? (·.1 == name)).map (·.2)
  | _ => Option.none

def textAttribute? (name : String) (v : Value) : Option String :=
  match v.attribute? name with
  | some (.str s) => if s.isEmpty then Option.none else some s
  | _ => Option.none

def home? : Value → Option String
  | .cls c => some c.module
  | .routine _ home _ => some home
  | .form f => some f.module
  | .applied head _ => head.home?
  | .indexed c _ => some c.module
  | .union _ => some "typing"
  | .bars _ => some "types"
  | .literal _ => some "typing"
  | .annotated base _ => base.home?
  | .typeVar v _ _ => some v.module
  | .paramSpec v _ => some v.module
  | .paramArgs _ => some "typing"
  | .paramKwargs _ => some "typing"
  | .newType home _ _ => some home
  | .forwardRef _ => some "typing"
  | .aliasName _ crossref =>
    some (if crossref.isSome then "sphinx_autodoc_typehints._annotations"
      else "sphinx.util.inspect")
  | .typeAlias a => some a.module
  | .member owner _ _ => some owner.module
  | .instanceOf owner attributes =>
    match (Value.instanceOf owner attributes).textAttribute? "__module__" with
    | some home => some home
    | Option.none => some owner.module
  | .doc _ => some "typing_extensions"
  | .object h =>
    match h.kind with
    | .function => some h.module
    | .method => some h.module
    | .instanceOf => some h.module
    | .partialCall => some "functools"
    | _ => Option.none
  | _ => Option.none

def documentedModule (v : Value) : Except Failure String :=
  match v with
  | .none => .ok "builtins"
  | _ =>
    match Library.interpreterName? v with
    | some _ => .ok "types"
    | Option.none =>
      match v with
      | .newType _ _ _ => .ok "typing"
      | .typeVar _ _ _ => .ok "typing"
      | .paramSpec _ _ => .ok "typing"
      | .paramArgs _ => .ok "typing"
      | .paramKwargs _ => .ok "typing"
      | _ =>
        match v.home? with
        | some home => .ok home
        | Option.none =>
          .error (.badValue ("Cannot determine the module of " ++ v.plainText))

def dropUnderscores (name : String) : String :=
  String.ofList (Text.dropStartWhile (· == '_') name.toList)

def isTypingModule (home : String) : Bool :=
  home == "typing" || home == "typing_extensions"

def isOptional (members : List Value) : Bool :=
  members.length == 2 && members.any isNoneType

/-- The name of an instance: what it calls itself, or else the name of its class. -/
def instanceName (v : Value) (owner : ClassRef) (home : String) : String :=
  match v.textAttribute? "__qualname__", v.textAttribute? "_name" with
  | some name, _ => name
  | Option.none, some name => name
  | Option.none, Option.none =>
    match if isTypingModule home then v.textAttribute? "name" else Option.none with
    | some name => name
    | Option.none => dropUnderscores owner.qualname

def documentedName (home : String) (v : Value) : String :=
  if equal v Library.anyStr then "AnyStr"
  else
    match Library.interpreterName? v with
    | some name => name
    | Option.none =>
      match v with
      | .none => "None"
      | .newType _ _ _ => "NewType"
      | .cls c => c.qualname
      | .routine _ _ qualname => qualname
      | .form f => f.name
      | .applied (.form f) _ => f.name
      | .applied (.cls c) _ => c.name
      | .applied (.typeAlias a) _ => a.name
      | .applied _ _ => ""
      | .indexed c _ => c.qualname
      | .union members => if isOptional members then "Optional" else "Union"
      | .bars _ => "UnionType"
      | .literal _ => "Literal"
      | .annotated _ _ => "Annotated"
      | .typeVar _ _ _ => "TypeVar"
      | .paramSpec _ _ => "ParamSpec"
      | .paramArgs _ => "ParamSpecArgs"
      | .paramKwargs _ => "ParamSpecKwargs"
      | .forwardRef _ => "ForwardRef"
      | .aliasName _ crossref =>
        if crossref.isSome then "MyTypeAliasForwardRef" else "TypeAliasForwardRef"
      | .typeAlias _ => "TypeAliasType"
      | .member owner _ _ => dropUnderscores owner.qualname
      | .instanceOf owner _ => instanceName v owner home
      | .doc _ => "Doc"
      | .object h =>
        match h.kind with
        | .function => h.qualname
        | .method => h.qualname
        | .partialCall => "partial"
        | _ => dropUnderscores h.qualname
      | _ => ""

/-- Values that are the same object, and not only equal. -/
def identical (a b : Value) : Bool :=
  match a, b with
  | .cls c, .cls d => c == d
  | .form f, .form g => f == g
  | .routine _ m f, .routine _ n g => m == n && f == g
  | .typeVar v _ _, .typeVar w _ _ => v == w
  | .paramSpec v _, .paramSpec w _ => v == w
  | .newType _ _ _, .newType _ _ _ => equal a b
  | .typeAlias c, .typeAlias d => c == d
  | .object h, .object k => h.serial == k.serial
  | .module m, .module n => m == n
  | _, _ => false

/-! ## Parts -/

/-- A value that is smaller than `v`, such as one of its arguments. -/
abbrev Part (v : Value) := { part : Value // sizeOf part < sizeOf v }

theorem sizeOf_lt_annotated {base : Value} {marks : List Value} :
    sizeOf base < sizeOf (annotated base marks) := by
  simp only [annotated.sizeOf_spec]
  omega

theorem sizeOf_lt_newType {home name : String} {base : Value} :
    sizeOf base < sizeOf (newType home name base) := by
  simp only [newType.sizeOf_spec]
  omega

def partsOf {v : Value} (items : List Value) (smaller : sizeOf items < sizeOf v) :
    List (Part v) :=
  items.attach.map fun item =>
    ⟨item.1, Nat.lt_trans (List.sizeOf_lt_of_mem item.2) smaller⟩

def variableParts {v : Value} (items : List Value) (smaller : sizeOf items < sizeOf v) :
    List (Part v) :=
  (distinct equal (variablesOf items)).attach.map fun item =>
    ⟨item.1, Nat.lt_of_le_of_lt
      (sizeOf_le_of_mem_variablesOf items (mem_of_mem_distinct item.2)) smaller⟩

/--
The variables that a generic type was declared with; only types with arguments
have them.
-/
def declaredVariables : (v : Value) → Except Failure (List (Part v))
  | .applied _ args =>
    .ok (variableParts args (by simp only [applied.sizeOf_spec]; omega))
  | .indexed _ args =>
    .ok (variableParts args (by simp only [indexed.sizeOf_spec]; omega))
  | _ => .error (.missingAttribute "object" "__parameters__")

def givenArguments : (v : Value) → List (Part v)
  | .applied _ args => partsOf args (by simp only [applied.sizeOf_spec]; omega)
  | .indexed _ args => partsOf args (by simp only [indexed.sizeOf_spec]; omega)
  | .union members => partsOf members (by simp only [union.sizeOf_spec]; omega)
  | .bars members => partsOf members (by simp only [bars.sizeOf_spec]; omega)
  | .literal values => partsOf values (by simp only [literal.sizeOf_spec]; omega)
  | .annotated base _ => [⟨base, sizeOf_lt_annotated⟩]
  | .newType _ _ base => [⟨base, sizeOf_lt_newType⟩]
  | .typeVar _ _ constraints =>
    partsOf constraints (by simp only [typeVar.sizeOf_spec]; omega)
  | _ => []

def boundPart? : (v : Value) → Option (Part v)
  | .typeVar _ (some bound) _ =>
    some ⟨bound, by simp only [typeVar.sizeOf_spec, Option.some.sizeOf_spec]; omega⟩
  | .paramSpec _ (some bound) =>
    some ⟨bound, by simp only [paramSpec.sizeOf_spec, Option.some.sizeOf_spec]; omega⟩
  | _ => Option.none

def asVariable : Value → Option Variable
  | .typeVar x _ _ => some x
  | .paramSpec x _ => some x
  | _ => Option.none

def isEmptyTuple : Value → Bool
  | .tuple [] => true
  | _ => false

/--
The arguments under which a value is documented.  The value that its module has
under its own name has none, and an argument list of one empty tuple is empty.
-/
def documentedArguments (registry : Registry) (home name : String) (v : Value) :
    Except Failure (List (Part v)) :=
  let isNamed :=
    match registry.member? home name with
    | some named => identical named v
    | Option.none => false
  if isNamed then .ok []
  else if name == "Generic" then v.declaredVariables
  else
    match v.givenArguments with
    | [single] => if isEmptyTuple single.1 then .ok [] else .ok [single]
    | args => .ok args

structure Description (v : Value) where
  module : String
  name : String
  args : List (Part v)

def describe (registry : Registry) (v : Value) : Except Failure (Description v) := do
  let home ← v.documentedModule
  let name := v.documentedName home
  let args ← v.documentedArguments registry home name
  return ⟨home, name, args⟩

end Value

end DocHints
