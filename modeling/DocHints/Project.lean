import DocHints.Document.Docstring
import DocHints.Hints.Overloads
import DocHints.Program.Declare

/-!
# Projects

A project is a set of source files that are imported on demand.  Requests ask
for what is known about the values in it, one after another; what one of them
finds out stays known for the next.
-/

namespace DocHints.Project

open Program

structure NativeModule where
  /-- A package that is imported first. -/
  parent : Option String
  name : String
  functions : List String
  deriving Repr, Inhabited

def nativeParams : List SignatureParam :=
  [⟨"args", .variadic, none, none⟩]

def addNative (engine : Engine) (file : String) (native : NativeModule) : Run Unit := do
  match native.parent with
  | some parent =>
    let _ ← engine.load parent
  | none => pure ()
  let functions := native.functions.map fun name =>
    Declaration.function { name := name, params := nativeParams }
  let _ ← declareModule native.name file true [("__package__", .none)] functions

structure Target where
  module : String
  /-- The names that lead from the module to the value. -/
  path : List String
  /-- Whether the value is taken as it is stored. -/
  stored : Bool
  /-- The documented name. -/
  name : String
  deriving Repr, Inhabited

def Target.value (engine : Engine) (target : Target) : Run Value := do
  valueAt engine target.stored (← engine.load target.module) target.path

inductive Request where
  /-- All types, with names that stand for others. -/
  | hints (names : List (String × String))
  | comments
  | instanceVariables
  | stubAnnotations
  /--
  What is known where the stub's annotations are evaluated; some names are asked
  for.
  -/
  | stubContext (ask : List String)
  | stubPath
  | descriptor
  | location
  /-- Reads the overloads of the module. -/
  | analyse
  | docstring (kind : Document.Kind) (lines : List String)
  | signature (kind : Document.Kind)
  deriving Repr, Inhabited

inductive Reply where
  | entries (entries : List (String × String))
  | context (names aliases : List String) (owner : String)
  | text (text : Option String)
  | counts (counts : List (String × Nat))
  | lines (lines : List String)
  deriving Repr, Inhabited

def rendered (settings : Document.Settings) (v : Value) : Run String := do
  let w ← get
  let options := { settings.render with shortLiterals := false }
  (Scene.render ⟨options, w.registry,
    settings.aliases ++ w.aliases⟩ v : Except Failure String)

def renderedEntries (settings : Document.Settings) (hints : Annotations) :
    Run Reply := do
  return .entries (← hints.mapM fun (name, hint) =>
    do return (name, ← rendered settings hint))

def sortTexts (texts : List String) : List String :=
  texts.mergeSort fun a b => a ≤ b

def performOn (engine : Engine) (settings : Document.Settings) (target : Target)
    (v : Value) : Request → Run Reply
  | .hints names => do
    let given : Names :=
      names.map fun (name, text) => (name, .aliasName text (some false))
    renderedEntries settings
      (← Hints.allHints engine settings.replaced target.name given v)
  | .comments => do return .entries (← Hints.commentHints engine v target.name)
  | .instanceVariables =>
    match v with
    | .cls c => do renderedEntries settings (← Hints.instanceHints engine c)
    | _ => return .entries []
  | .stubAnnotations => do return .entries (← Stub.annotationsFor engine v)
  | .stubContext ask => do
    let context ← Stub.contextOf engine v
    let present := ask.filter fun name => (context.names.find? name).isSome
    return .context (sortTexts present) (sortTexts context.aliases) context.owner
  | .stubPath => do return .text ((← Stub.ownerOf? engine v).map (·.stub))
  | .descriptor => do
    match ← Hints.descriptorHint? engine v with
    | some hint => return .text (some (← rendered settings hint))
    | none => return .text none
  | .location => do return .text (← locationOf? engine v)
  | .analyse => do
    let found ← Hints.analyseModule target.module
    let counts := found.map fun (qualname, overloads) => (qualname, overloads.length)
    return .counts (counts.mergeSort fun a b => a.1 ≤ b.1)
  | .docstring kind lines => do
    return .lines (← Document.docstring engine settings ⟨kind, target.name, v⟩ lines)
  | .signature kind => do
    return .text (← Document.signatureText? engine settings ⟨kind, target.name, v⟩)

/-- Fulfils a request; its target is imported first. -/
def perform (engine : Engine) (settings : Document.Settings) (target : Target)
    (request : Request) : Run Reply := do
  performOn engine settings target (← target.value engine) request

end DocHints.Project
