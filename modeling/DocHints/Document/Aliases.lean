import DocHints.Document.Settings
import DocHints.Hints.Resolve

/-!
# Documented aliases

An alias with documentation of its own is referred to by its name, and what it
stands for is not shown.  Annotations that are texts meet the alias when they
are evaluated; for the others, the names of the module tell which alias was
meant.
-/

namespace DocHints.Document

open Program
open RenderOptions (documentsType)

def documentedAlias (name : String) : Value :=
  .aliasName name (some true)

def collect (home : String) (names : Names) (entry : String × String) : Names :=
  if entry.2 == "type"
    && (Text.startsWith (home ++ ".") entry.1 || entry.1 == home) then
    names.put (Text.lastPart entry.1) (documentedAlias (Text.lastPart entry.1))
  else names

def aliasesBelow (home : String) (objects : List (String × String)) : Names :=
  objects.foldl (collect home) []

def isDocumentedType (home : String) (objects : List (String × String))
    (name : String) : Bool :=
  documentsType objects (home ++ "." ++ name) || documentsType objects name

/--
Whether two values count as one: the same object, or types that are written
alike.
-/
def isSameType (a b : Value) : Bool :=
  Value.identical a b || (Value.equal a b && a.text == b.text)

/-- The last public name of a documented type under which the module holds a value. -/
def globalAlias? (home : String) (objects : List (String × String))
    (globals : Names) (v : Value) : Option String :=
  ((globals.filter fun (name, held) =>
    isSameType held v && !Text.startsWith "_" name
      && isDocumentedType home objects name).getLast?).map (·.1)

structure KnownAliases where
  /-- Names that annotations can use. -/
  names : Names := []
  /-- Values for which an alias stands. -/
  values : List (Value × Value) := []

namespace KnownAliases

def add (home : String) (objects : List (String × String)) (globals : Names)
    (known : KnownAliases) (hint : Value) : KnownAliases :=
  match hint with
  | .str text =>
    if isDocumentedType home objects text then
      { known with names := known.names.put text (documentedAlias text) }
    else known
  | _ =>
    match globalAlias? home objects globals hint with
    | some name => { known with values := (hint, documentedAlias name) :: known.values }
    | none => known

def shown (known : KnownAliases) (v : Value) : Value :=
  match known.values.find? fun entry => isSameType entry.1 v with
  | some (_, name) => name
  | none => v

end KnownAliases

def knownAliases (engine : Engine) (home : String)
    (objects : List (String × String)) (v : Value) : Run KnownAliases := do
  let known : KnownAliases := { names := aliasesBelow home objects }
  match ← (getAttribute? engine v "__annotations__").attempt with
  | .error f =>
    if f.kind == .name || f.kind == .type then return known else throw f
  | .ok none => return known
  | .ok (some stored) =>
    let w ← get
    let globals := match w.globalsOf? v with
      | some space => (w.space space).names
      | none => []
    return (annotationsOfValue stored).foldl (fun known (_, hint) =>
      known.add home objects globals hint) known

end DocHints.Document
