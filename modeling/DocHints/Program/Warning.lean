import DocHints.Failure

/-!
# Warnings

What is told to the user while types are looked up, with the place in the
sources that it is about.
-/

namespace DocHints.Program

inductive Warning.Cause where
  /-- An annotation of `name` needs a name that is not defined. -/
  | forwardReference (name module reason : String)
  /-- A guarded block of a module could not be run. -/
  | guardedImport (module : Value) (failure : Failure)
  | unreadableComment (name : String)
  | incompleteComment (name : String)
  /-- The source of `name` holds another number of statements than one. -/
  | manyStatements (name : String) (count : Nat)
  | localFunction (name : String)
  deriving Repr, Inhabited

def Warning.Cause.label : Warning.Cause → String
  | .forwardReference _ _ _ => "forward_reference"
  | .guardedImport _ _ => "guarded_import"
  | .unreadableComment _ => "comment"
  | .incompleteComment _ => "comment"
  | .manyStatements _ _ => "multiple_ast_nodes"
  | .localFunction _ => "local_function"

def Warning.Cause.message : Warning.Cause → String
  | .forwardReference name module reason =>
    "Cannot resolve forward reference in type annotations of \"" ++ name
      ++ "\" (module " ++ module
      ++ "): " ++ reason
  | .guardedImport module failure =>
    "Failed guarded type import in " ++ module.text ++ ": " ++ failure.shown
  | .unreadableComment name =>
    "Unparseable type hint comment for \"" ++ name ++ "\": Expected to contain ` -> `"
  | .incompleteComment name => "Not enough type comments found on \"" ++ name ++ "\""
  | .manyStatements name count =>
    "Did not get exactly one node from AST for \"" ++ name ++ "\", got "
      ++ toString count
  | .localFunction name =>
    "Cannot handle as a local function: \"" ++ name ++ "\" (use @functools.wraps)"

structure Warning where
  cause : Warning.Cause
  location : Option String
  deriving Repr, Inhabited

end DocHints.Program
