import DocHints.Value.Display

/-!
# Failures

Why reading a source, evaluating an annotation or running a module stops.  A
failure has a kind, the values it was raised with, and, where an import fails,
the module that was asked for.  Its message is the text of those values.
-/

namespace DocHints

inductive FailureKind where
  | name
  | attribute
  | type
  | value
  | index
  | key
  | malformed
  | indentation
  | tabs
  | importing
  | moduleMissing
  | recursion
  | system
  | custom (label : String)
  deriving DecidableEq, Repr, Inhabited

def FailureKind.label : FailureKind → String
  | .name => "NameError"
  | .attribute => "AttributeError"
  | .type => "TypeError"
  | .value => "ValueError"
  | .index => "IndexError"
  | .key => "KeyError"
  | .malformed => "SyntaxError"
  | .indentation => "IndentationError"
  | .tabs => "TabError"
  | .importing => "ImportError"
  | .moduleMissing => "ModuleNotFoundError"
  | .recursion => "RecursionError"
  | .system => "OSError"
  | .custom label => label

def FailureKind.ofLabel : String → FailureKind
  | "NameError" => .name
  | "AttributeError" => .attribute
  | "TypeError" => .type
  | "ValueError" => .value
  | "IndexError" => .index
  | "KeyError" => .key
  | "SyntaxError" => .malformed
  | "IndentationError" => .indentation
  | "TabError" => .tabs
  | "ImportError" => .importing
  | "ModuleNotFoundError" => .moduleMissing
  | "RecursionError" => .recursion
  | "OSError" => .system
  | label => .custom label

/-- The names under which a kind of failure can be caught. -/
def FailureKind.families (kind : FailureKind) : List String :=
  let wider : List String :=
    match kind with
    | .index => ["LookupError"]
    | .key => ["LookupError"]
    | .indentation => ["SyntaxError"]
    | .tabs => ["IndentationError", "SyntaxError"]
    | .moduleMissing => ["ImportError"]
    | .recursion => ["RuntimeError"]
    | _ => []
  kind.label :: wider ++ ["Exception", "BaseException"]

def FailureKind.isImport : FailureKind → Bool
  | .importing => true
  | .moduleMissing => true
  | _ => false

def FailureKind.isMalformed : FailureKind → Bool
  | .malformed => true
  | .indentation => true
  | .tabs => true
  | _ => false

structure Failure where
  kind : FailureKind
  args : List Value
  module : Option String
  deriving Inhabited, Repr

namespace Failure

def withText (kind : FailureKind) (message : String) : Failure :=
  ⟨kind, [.str message], none⟩

def undefinedName (name : String) : Failure :=
  withText .name ("name " ++ Text.quote name ++ " is not defined")

def missingAttribute (owner name : String) : Failure :=
  withText .attribute (owner ++ " has no attribute " ++ Text.quote name)

def misuse (message : String) : Failure :=
  withText .type message

def badValue (message : String) : Failure :=
  withText .value message

def outOfRange (message : String) : Failure :=
  withText .index message

def missingKey (key : Value) : Failure :=
  ⟨.key, [key], none⟩

def malformed (message : String) : Failure :=
  withText .malformed message

def badIndentation (message : String) : Failure :=
  withText .indentation message

def mixedTabs : Failure :=
  withText .tabs "inconsistent use of tabs and spaces in indentation"

def importFailed (message : String) (module : String) : Failure :=
  ⟨.importing, [.str message], some module⟩

def moduleMissing (module : String) : Failure :=
  ⟨.moduleMissing, [.str ("No module named " ++ Text.quote module)], some module⟩

def tooDeep : Failure :=
  withText .recursion "maximum recursion depth exceeded"

def unavailable (message : String) : Failure :=
  withText .system message

def unsupportedBar (left right : String) : Failure :=
  misuse ("unsupported operand type(s) for |: " ++ Text.quote left ++ " and "
    ++ Text.quote right)

/--
What a failure has to say: its only value as a reader sees it, or all of its
values.
-/
def message (f : Failure) : String :=
  match f.kind, f.args with
  | _, [] => ""
  | .key, [arg] => arg.text
  | _, [arg] => arg.plainText
  | _, args => (Value.tuple args).text

def shown (f : Failure) : String :=
  f.kind.label ++ "(" ++ Text.join ", " (f.args.map Value.text) ++ ")"

end Failure

end DocHints
