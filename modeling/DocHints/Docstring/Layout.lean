import DocHints.Docstring.Field
import DocHints.Docstring.Sections

/-!
# Layouts

A docstring is laid out in fields or in sections.  Sections are converted to
fields when the first question about the docstring needs it; from then on both
layouts are edited alike.
-/

namespace DocHints.Docstring

inductive Layout where
  | fields
  | sections (converted : Bool)
  deriving DecidableEq, Repr, Inhabited

structure Draft where
  layout : Layout
  lines : Lines
  deriving DecidableEq, Repr, Inhabited

def Layout.detect (lines : Lines) : Layout :=
  if hasSections lines then .sections false else .fields

namespace Draft

def ofLines (lines : Lines) : Draft :=
  ⟨Layout.detect lines, lines⟩

def inFields (draft : Draft) : Draft :=
  match draft.layout with
  | .sections false => ⟨.sections true, convertSections draft.lines⟩
  | _ => draft

def withLines (draft : Draft) (lines : Lines) : Draft :=
  { draft with lines := lines }

end Draft

def findParam? (lines : Lines) (name : String) : Option Nat :=
  lines.findIdx? fun line => isParamLine line name

/-- The field that gives the type of a parameter, up to the type itself. -/
def typeField (name : String) : String :=
  ":type " ++ name ++ ": "

def existingType? (lines : Lines) (name : String) : Option String :=
  lines.find? (Text.startsWith (typeField name))

/-- Adds a field for a parameter at the end; gives its index. -/
def addParam (lines : Lines) (name : String) : Lines × Nat :=
  (lines ++ [":param " ++ name ++ ":"], lines.length)

def injectType (lines : Lines) (name type : String) (position : Int) : Lines :=
  insertLine lines position (typeField name ++ type)

/--
The last line of the field that begins at a position: the field's own line, or
the last line with content among the empty and indented ones after it.  `last`
is the best line so far.
-/
def fieldEnd (lines : Lines) (next last : Int) : Nat → Except Failure Int
  | 0 => .ok last
  | fuel + 1 =>
    if next < lines.length then
      match lineAt lines next with
      | .error failure => .error failure
      | .ok line =>
        if line.isEmpty then fieldEnd lines (next + 1) last fuel
        else if Text.startsWith " " line then fieldEnd lines (next + 1) next fuel
        else .ok last
    else .ok last

def appendDefault (lines : Lines) (position : Int) (default : String) :
    Except Failure Lines := do
  let fuel := ((lines.length : Int) - position).toNat
  let last ← fieldEnd lines (position + 1) position fuel
  let line ← lineAt lines last
  setLine lines last (line ++ default)

def isContinuation (line : String) : Bool :=
  match line.toList with
  | c :: _ => Text.isBlank c
  | [] => false

/--
Removes the line of an existing type together with its continuation; gives the
index.
-/
def removeType (lines : Lines) (existing : String) : Except Failure (Lines × Nat) :=
  match lines.findIdx? (· == existing) with
  | none => .error (.badValue (Text.quote existing ++ " is not in list"))
  | some index =>
    .ok (lines.take index ++ (lines.drop (index + 1)).dropWhile isContinuation, index)

def escapedName (name : String) : String :=
  String.ofList name.toList.dropLast ++ "\\_"

def replaceFirst (mark other s : String) : String :=
  match Text.splitFirst? mark s with
  | some (before, after) => before ++ other ++ after
  | none => s

/--
The line for a parameter whose name ends in an underscore.  The escaped spelling
is tried first; a line with the plain spelling is changed to the escaped one
where the name ends the head.
-/
def findUnderscored (lines : Lines) (name : String) : Lines × String × Option Nat :=
  let escaped := escapedName name
  match findParam? lines escaped with
  | some index => (lines, escaped, some index)
  | none =>
    match findParam? lines name with
    | none => (lines, escaped, none)
    | some index =>
      let line := lines.getD index ""
      let changed := replaceFirst (" " ++ name ++ ":") (" " ++ escaped ++ ":") line
      if changed == line then (lines, name, some index)
      else (lines.set index changed, escaped, some index)

end DocHints.Docstring
