import DocHints.Entries
import DocHints.Source.Parser.Stmt
import DocHints.Source.Printer
import DocHints.Text.Lines

/-!
# Instance variables

An initialiser declares the types of attributes by annotated assignments to its
first parameter.
-/

namespace DocHints.Hints

open Source

/-- The name by which a function calls its instance. -/
def receiverName (params : List (Parameter Expr)) : String :=
  match params.find? (·.kind == .standard) with
  | some param => param.name
  | none => "self"

def addAttribute (receiver : String) (found : List (String × String)) (stmt : Stmt) :
    List (String × String) :=
  match stmt with
  | .annAssign (.attribute (.name id) field) hint _ =>
    if id == receiver then Entries.put found field hint.print else found
  | _ => found

def declaredAttributes (receiver : String) (body : List Stmt) :
    List (String × String) :=
  body.foldl (addAttribute receiver) []

/--
A node of a tree that holds statements: one of them, or a handler or a case with
its body.
-/
inductive Node where
  | statement (stmt : Stmt)
  | clause (body : List Stmt)

def Node.inner : Node → List Node
  | .clause body => body.map .statement
  | .statement (.function _ body) => body.map .statement
  | .statement (.classDef _ body) => body.map .statement
  | .statement (.branch _ body orElse) => (body ++ orElse).map .statement
  | .statement (.whileLoop _ body orElse) => (body ++ orElse).map .statement
  | .statement (.forLoop _ _ _ body orElse) => (body ++ orElse).map .statement
  | .statement (.withBlock _ _ body) => body.map .statement
  | .statement (.attempt body handlers orElse final) =>
    body.map .statement ++ (handlers.map fun handler => .clause handler.2.2)
      ++ (orElse ++ final).map .statement
  | .statement (.choose _ cases) => cases.map fun choice => .clause choice.2.2
  | .statement _ => []

def Node.initialiser? : Node → Option (FunctionHead × List Stmt)
  | .statement (.function head body) =>
    if head.name == "__init__" && !head.isAsync then some (head, body) else none
  | _ => none

/--
The first initialiser at or below a level; each round of `fuel` looks one level
deeper.
-/
def findInitialiser? : Nat → List Node → Option (FunctionHead × List Stmt)
  | 0, _ => none
  | _, [] => none
  | fuel + 1, level =>
    match level.findSome? Node.initialiser? with
    | some definition => some definition
    | none => findInitialiser? fuel (level.flatMap Node.inner)

/--
The attributes that the source of an initialiser declares; `none` if it cannot
be read.
-/
def instanceAttributes? (source : String) : Option (List (String × String)) :=
  match readModule false (Text.dedent source) with
  | .error _ => none
  | .ok tree =>
    match findInitialiser? (source.length + 1) (tree.map .statement) with
    | some (head, body) => some (declaredAttributes (receiverName head.params) body)
    | none => some []

end DocHints.Hints
