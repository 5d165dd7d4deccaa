import DocHints.Entries
import DocHints.Source.Printer
import DocHints.Text.Cut

/-!
# Definitions in a stub

A stub declares the types of a module that cannot tell them itself.  A
definition is looked up by its qualified name; its types are given as they would
be printed.
-/

namespace DocHints.Stub

open Source

inductive Definition where
  | classDef (body : List Stmt)
  | function (head : FunctionHead)
  deriving Repr

/--
The definition of a qualified name: a class or a function at the top of a body,
or inside the class that the first part of the name leads to.
-/
def findDefinition? : List String → List Stmt → Option Definition
  | [], _ => none
  | target :: rest, body =>
    body.findSome? (fun stmt =>
      match stmt with
      | .classDef head inner => if head.name == target then some (.inl inner) else none
      | .function head _ =>
        if head.name == target && rest.isEmpty then some (.inr head) else none
      | _ => none) |>.bind fun found : List Stmt ⊕ FunctionHead =>
        match found with
        | .inl inner =>
          if rest.isEmpty then some (.classDef inner) else findDefinition? rest inner
        | .inr head => some (.function head)

def functionAnnotations (head : FunctionHead) : List (String × String) :=
  let params :=
    head.params.map fun param => (param.name, param.annotation.map Expr.print)
  (params ++ [("return", head.returns.map Expr.print)]).foldl Entries.putSome []

def classAnnotations (body : List Stmt) : List (String × String) :=
  body.foldl (fun found stmt =>
    match stmt with
    | .annAssign (.name id) hint _ => Entries.put found id hint.print
    | _ => found) []

def Definition.annotations : Definition → List (String × String)
  | .classDef body => classAnnotations body
  | .function head => functionAnnotations head

def annotationsOf (tree : List Stmt) (qualname : String) : List (String × String) :=
  match findDefinition? (Text.dotted qualname) tree with
  | some definition => definition.annotations
  | none => []

/-! ## Aliases -/

def isPlainName : Expr → Bool
  | .name _ => true
  | .attribute _ _ => true
  | _ => false

def aliasName? : Stmt → Option String
  | .annAssign (.name id) hint _ =>
    if isPlainName hint
        && ["TypeAlias", "typing.TypeAlias",
          "typing_extensions.TypeAlias"].contains hint.print
    then some id else none
  | _ => none

def aliasNames (tree : List Stmt) : List String :=
  (tree.filterMap aliasName?).eraseDups

/-! ## Descriptors -/

def isPropertyMark : Expr → Bool
  | .name id => id == "property"
  | _ => false

def memberType? (name : String) : Stmt → Option String
  | .annAssign (.name id) hint _ => if id == name then some hint.print else none
  | .function head _ =>
    if !head.isAsync && head.name == name && head.decorators.any isPropertyMark then
      head.returns.map Expr.print
    else none
  | _ => none

/-- How many statements a list holds, counting those inside branches. -/
def branchSize : List Stmt → Nat
  | [] => 0
  | .branch _ body orElse :: rest =>
    branchSize body + branchSize orElse + branchSize rest + 1
  | _ :: rest => branchSize rest + 1

theorem branchSize_append (front rest : List Stmt) :
    branchSize (front ++ rest) = branchSize front + branchSize rest := by
  induction front using branchSize.induct with
  | case1 => simp [branchSize]
  | case2 test body orElse front _ _ ih =>
      simp only [List.cons_append, branchSize, ih]
      omega
  | case3 stmt front plain ih =>
      rw [List.cons_append, branchSize.eq_3 _ _ plain, branchSize.eq_3 _ _ plain, ih]
      omega

theorem branchSize_reverse (body : List Stmt) :
    branchSize body.reverse = branchSize body := by
  induction body with
  | nil => rfl
  | cons stmt rest ih =>
      have split : stmt :: rest = [stmt] ++ rest := rfl
      rw [List.reverse_cons, branchSize_append, ih, split, branchSize_append,
        Nat.add_comm]

inductive Turn where
  | ended (type : Option String)
  | waiting (stack : List Stmt)

/--
One turn of the search for the type that the members of a class declare for a
descriptor.  The members wait on a stack, last one first; a branch puts both of
its sides there.
-/
def turn (name : String) : List Stmt → Turn
  | [] => .ended none
  | .branch _ body orElse :: stack => .waiting (orElse.reverse ++ body.reverse ++ stack)
  | member :: stack =>
    match memberType? name member with
    | some type => .ended (some type)
    | none => .waiting stack

theorem branchSize_turn {name : String} {stack next : List Stmt}
    (goes_on : turn name stack = .waiting next) :
    branchSize next < branchSize stack := by
  unfold turn at goes_on
  split at goes_on
  · cases goes_on
  · cases goes_on
    simp only [branchSize, branchSize_append, branchSize_reverse]
    omega
  · rename_i member stack plain
    split at goes_on
    · cases goes_on
    · cases goes_on
      rw [branchSize.eq_3 _ _ plain]
      omega

/-- Turns are taken until the search ends: each of them leaves fewer statements. -/
def searchMembers (name : String) (stack : List Stmt) : Option String :=
  match goes_on : turn name stack with
  | .ended type => type
  | .waiting next =>
    have := branchSize_turn goes_on
    searchMembers name next
termination_by branchSize stack

def descriptorType? (tree : List Stmt) (owner name : String) : Option String :=
  match findDefinition? (Text.dotted owner) tree with
  | some (.classDef body) => searchMembers name body.reverse
  | _ => none

end DocHints.Stub
