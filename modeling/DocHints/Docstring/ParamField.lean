import DocHints.Annotation.Facts
import DocHints.Attributes
import DocHints.Docstring.Default
import DocHints.Docstring.Layout

/-!
# The types of parameters

Each parameter of a function gets a field with its type, above the line that
documents it.  The type may come from a hint, or from a field that is there
already and only lacks the default.
-/

namespace DocHints.Docstring

structure Argument where
  name : String
  default : Option Value
  deriving Repr, Inhabited

structure FieldOptions where
  /-- Document also the parameters that the docstring does not mention. -/
  alwaysDocument : Bool
  defaults : DefaultsSetting
  deriving Repr, Inhabited

/-- The hint of a parameter; an empty one counts as missing. -/
def hint? (hints : Annotations) (name : String) : Option Value :=
  match hints.find? (·.1 == name) with
  | some (_, v) => if v.isNone then none else some v
  | none => none

/--
The name under which a parameter is documented, and the index of its line if it
has one.
-/
def locateParam (lines : Lines) (name : String) : Lines × String × Option Nat :=
  if Text.endsWith "_" name then findUnderscored lines name
  else (lines, name, findParam? lines name)

def dropInlineType (lines : Lines) (name : String) (index : Nat) :
    Except Failure Lines := do
  match ← withoutInlineType (lines.getD index "") name with
  | some line => return if line.isEmpty then lines else lines.set index line
  | none => return lines

/-- The name that a line documents; `name` where it tells none. -/
def documentedName (line name : String) : String :=
  match argumentOf? line with
  | some argument => if argument.isEmpty then name else argument
  | none => name

/--
The lines with the line of a parameter made ready, the name under which it is
documented, and the index of its line.  An inline type gives way to a hint.
-/
def settleParam (lines : Lines) (name : String) (hinted : Bool) :
    Except Failure (Lines × String × Option Nat) :=
  match locateParam lines name with
  | (lines, name, none) => .ok (lines, name, none)
  | (lines, name, some index) => do
    let lines ← if hinted then dropInlineType lines name index else pure lines
    .ok (lines, documentedName (lines.getD index "") name, some index)

def hintDescription? (hint : Option Value) : Option String :=
  (hint.bind Value.description?).filter (!·.isEmpty)

/--
The line for a parameter that has none yet: by its description, or if all are
documented.
-/
def documentParam (options : FieldOptions) (lines : Lines) (name : String)
    (hint : Option Value) : Lines × Option Nat :=
  match hintDescription? hint with
  | some text => (lines ++ [":param " ++ name ++ ": " ++ text], some lines.length)
  | none =>
    if hint.isSome && options.alwaysDocument then
      let (lines, index) := addParam lines name
      (lines, some index)
    else (lines, none)

def insertTypeField (options : FieldOptions) (lines : Lines) (index : Nat)
    (field : String) (default : Option Value) (annotated : Bool) :
    Except Failure Lines := do
  if !options.defaults.isOn then return insertLine lines index field
  match ← formatDefault options.defaults default annotated with
  | none => return insertLine lines index field
  | some text =>
    if ← options.defaults.isAfter then
      return insertLine (← appendDefault lines index text) index field
    else return insertLine lines index (field ++ text)

/--
Puts the field with the type of a parameter at an index, together with the
default.  A hint takes the place of an existing type; without a hint the
existing type is given once more.
-/
def giveType (typeText : Value → Except Failure String) (options : FieldOptions)
    (lines : Lines) (name : String) (index : Nat) (hint default : Option Value) :
    Except Failure Lines := do
  let existing := existingType? lines name
  match hint with
  | none =>
    insertTypeField options lines index (existing.getD (typeField name)) default
      existing.isSome
  | some type =>
    let (lines, index) ← match existing with
      | some line => removeType lines line
      | none => pure (lines, index)
    insertTypeField options lines index (typeField name ++ (← typeText type))
      default true

/--
Gives the type of one parameter.  `typeText` renders a hint.  A parameter that
no line documents is left out, unless it gets a line of its own.
-/
def injectParam (typeText : Value → Except Failure String) (options : FieldOptions)
    (hints : Annotations) (draft : Draft) (argument : Argument) :
    Except Failure Draft := do
  let draft := draft.inFields
  let hint := hint? hints argument.name
  let (lines, name, found) ← settleParam draft.lines argument.name hint.isSome
  let (lines, place) := match found with
    | some index => (lines, some index)
    | none => documentParam options lines name hint
  match place with
  | none => return draft.withLines lines
  | some index =>
    return draft.withLines
      (← giveType typeText options lines name index hint argument.default)

def injectParams (typeText : Value → Except Failure String) (options : FieldOptions)
    (hints : Annotations) (draft : Draft) (arguments : List Argument) :
    Except Failure Draft :=
  arguments.foldlM (injectParam typeText options hints) draft

end DocHints.Docstring
