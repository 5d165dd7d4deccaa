import DocHints.Decimal.Shortest
import DocHints.Text.Quoted
import DocHints.Value.Basic

/-!
# The text of values

Every value has a text that shows what it is made of: containers show their
elements, and a class shows its path in angle brackets.  Inside the brackets of
a type a class shows its path alone.
-/

namespace DocHints

def Variance.sign : Variance → String
  | .invariant => "~"
  | .covariant => "+"
  | .contravariant => "-"

def Form.path (f : Form) : String :=
  f.module ++ "." ++ f.name

inductive Place where
  /-- On its own, or inside a container. -/
  | alone
  /-- Among the arguments of a checked construct. -/
  | checked
  /-- Among the arguments of a class. -/
  | kept
  /-- Between the bars of a union. -/
  | bar
  deriving DecidableEq, Repr

namespace Value

def anyClass : ClassRef := ⟨"typing", "Any", .library, false⟩

def classText (c : ClassRef) : String :=
  if c = anyClass then "typing.Any"
  else if c.isEnumeration then "<enum " ++ Text.quote c.name ++ ">"
  else "<class " ++ Text.quote c.path ++ ">"

def objectText (h : Handle) : String :=
  match h.kind with
  | .function => "<function " ++ h.qualname ++ ">"
  | .method => "<bound method " ++ h.qualname ++ ">"
  | .property => "<property object>"
  | .classMethod => "<classmethod object>"
  | .staticMethod => "<staticmethod object>"
  | .slot => "<member " ++ Text.quote (Text.lastPart h.qualname) ++ ">"
  | .partialCall => "<partial object>"
  | .instanceOf => "<" ++ h.module ++ "." ++ h.qualname ++ " object>"

def routineText (place : Place) (kind : Routine) (module qualname : String) : String :=
  match place, kind with
  | .alone, .builtin => "<built-in function " ++ qualname ++ ">"
  | .alone, .scripted => "<function " ++ qualname ++ ">"
  | .checked, .builtin => "<built-in function " ++ qualname ++ ">"
  | .checked, .scripted => Text.lastPart qualname
  | _, _ => if module = "builtins" then qualname else module ++ "." ++ qualname

/--
Whether the arguments before the result are listed, and not stood for by one
item.
-/
def listsParameters : List Value → Bool
  | [.ellipsis, _] => false
  | [.paramSpec _ _, _] => false
  | [.applied (.form f) _, _] => f.name != "Concatenate"
  | _ => true

def isCallableForm : Value → Bool
  | .form f => f.module = "typing" && f.name = "Callable"
  | _ => false

def isCallableClass (c : ClassRef) : Bool :=
  c.module = "collections.abc" && c.qualname = "Callable" && c.origin = .library

/-- The bracketed arguments of a type; a list of parameters has brackets of its own. -/
def bracketed (parameters : Bool) (args : List String) : String :=
  if parameters then
    "[[" ++ Text.join ", " args.dropLast ++ "], " ++ args.getLastD "" ++ "]"
  else if args.isEmpty then "[()]"
  else "[" ++ Text.join ", " args ++ "]"

/-- A union of two with the class of `none` is shown as the other one made optional. -/
def unionText (members : List Value) (shownMembers : List String) : String :=
  match members.map isNoneType, shownMembers with
  | [true, _], [_, other] => "typing.Optional[" ++ other ++ "]"
  | [false, true], [other, _] => "typing.Optional[" ++ other ++ "]"
  | _, _ => "typing.Union" ++ bracketed false shownMembers

mutual

def textAt (place : Place) : Value → String
  | .none => "None"
  | .ellipsis => if place = .alone then "Ellipsis" else "..."
  | .notImplemented => "NotImplemented"
  | .bool b => if b then "True" else "False"
  | .int n => toString n
  | .float x => x.text
  | .str s => Text.quote s
  | .bytes b => Text.quoteBytes b
  | .list items => "[" ++ Text.join ", " (textsAt .alone items) ++ "]"
  | .tuple items =>
    if place = .checked then "[" ++ Text.join ", " (textsAt .checked items) ++ "]"
    else
      match textsAt .alone items with
      | [item] => "(" ++ item ++ ",)"
      | shownItems => "(" ++ Text.join ", " shownItems ++ ")"
  | .dict entries => "\x7b" ++ Text.join ", " (entryTexts entries) ++ "\x7d"
  | .shown content => content
  | .member owner name value =>
    "<" ++ owner.name ++ "." ++ name ++ ": " ++ textAt .alone value ++ ">"
  | .cls c =>
    match place with
    | .alone => classText c
    | .bar => if c = noneClass then "None" else c.path
    | _ => c.path
  | .routine kind home qualname => routineText place kind home qualname
  | .form f => f.path
  | .applied head args =>
    textAt .checked head
      ++ bracketed (isCallableForm head && listsParameters args) (textsAt .checked args)
  | .indexed c args =>
    if isCallableClass c && listsParameters args then
      c.path ++ bracketed true (textsAt .checked args)
    else c.path ++ bracketed false (textsAt .kept args)
  | .union members => unionText members (textsAt .checked members)
  | .bars members => Text.join " | " (textsAt .bar members)
  | .literal values => "typing.Literal" ++ bracketed false (textsAt .checked values)
  | .annotated base metadata =>
    "typing.Annotated[" ++ Text.join ", "
      (textAt .checked base :: textsAt .alone metadata) ++ "]"
  | .typeVar v _ _ => v.variance.sign ++ v.name
  | .paramSpec v _ => v.variance.sign ++ v.name
  | .paramArgs v => v.name ++ ".args"
  | .paramKwargs v => v.name ++ ".kwargs"
  | .newType home name _ => home ++ "." ++ name
  | .forwardRef ref => "ForwardRef(" ++ Text.quote ref ++ ")"
  | .aliasName name crossref =>
    (if crossref.isSome then "MyTypeAliasForwardRef(" else "TypeAliasForwardRef(")
      ++ Text.quote name ++ ")"
  | .typeAlias a => a.name
  | .instanceOf owner _ => "<" ++ owner.module ++ "." ++ owner.qualname ++ " object>"
  | .doc content => "Doc(" ++ Text.quote content ++ ")"
  | .module name => "<module " ++ Text.quote name ++ ">"
  | .object h => objectText h

def textsAt (place : Place) : List Value → List String
  | [] => []
  | item :: rest => textAt place item :: textsAt place rest

def entryTexts : List (Value × Value) → List String
  | [] => []
  | (key, item) :: rest =>
    (textAt .alone key ++ ": " ++ textAt .alone item) :: entryTexts rest

end

def text (v : Value) : String :=
  textAt .alone v

def plainText : Value → String
  | .str s => s
  | v => v.text

end Value

end DocHints
