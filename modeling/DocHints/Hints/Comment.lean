import DocHints.Hints.TypeComment
import DocHints.Program.Inspect

/-!
# Types from the comments of a value

The source of a function is read for the comment that gives its types.
-/

namespace DocHints.Hints

open Program
open Source (Stmt)

def isUnusableSource (f : Failure) : Bool :=
  isSourceFailure f || f.kind.isMalformed

/-- The statements of the source of a value; `none` if it has no usable source. -/
def statementsOf? (engine : Engine) (v : Value) : Run (Option (List Stmt)) := do
  match ← (sourceOf engine v).attempt with
  | .error f => if isUnusableSource f then return none else throw f
  | .ok source =>
    match Source.readModule true (Text.dedent (alignSource source)) with
    | .ok tree => return some tree
    | .error f => if isUnusableSource f then return none else throw f

def commentParams (head : Source.FunctionHead) : List CommentParam :=
  head.params.map fun param => ⟨param.name, param.typeComment⟩

def warnComment (engine : Engine) (v : Value) (name : String) : CommentFault → Run Unit
  | .unreadable => do warn (.unreadableComment name) (← locationOf? engine v)
  | .incomplete => do warn (.incompleteComment name) (← locationOf? engine v)

def statementTypes (engine : Engine) (v : Value) (name : String) (stmt : Stmt) :
    Run (List (String × String)) := do
  match stmt with
  | .function head _ =>
    match head.typeComment.filter (!·.isEmpty) with
    | none => return []
    | some comment =>
      let (types, fault) := commentTypes (commentParams head) comment
      match fault with
      | some f => warnComment engine v name f
      | none => pure ()
      return types
  | .assign _ _ (some comment) =>
    if comment.isEmpty then return []
    if (commentTypes [] comment).2 == some .unreadable then
      warnComment engine v name .unreadable
      return []
    throw (.missingAttribute "'Assign' object" "args")
  | _ => return []

/-- The types that comments give for a value; the source must be one statement. -/
def commentHints (engine : Engine) (v : Value) (name : String) :
    Run (List (String × String)) := do
  match ← statementsOf? engine v with
  | none => return []
  | some [stmt] => statementTypes engine v name stmt
  | some tree =>
    warn (.manyStatements name tree.length) (← locationOf? engine v)
    return []

end DocHints.Hints
