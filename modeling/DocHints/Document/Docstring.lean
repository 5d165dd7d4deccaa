import DocHints.Annotation.Walk
import DocHints.Docstring.InstanceField
import DocHints.Docstring.Overloads
import DocHints.Docstring.ReturnField
import DocHints.Document.Aliases
import DocHints.Document.Signature
import DocHints.Markup.Role
import DocHints.Rest.Outline

/-!
# Documented docstrings

The types of a value go into its docstring: the overloads at the top, the types
of parameters above the lines that document them, the type of the result at its
place, and the types of instance variables above theirs.
-/

namespace DocHints.Document

open Program
open Docstring (Draft)

/-! ## Rendering -/

def roleText (scene : Scene) (v : Value) : Except Failure String := do
  return Markup.typeRole (← scene.render v)

def typeText (settings : Settings) (objects : Option (List (String × String)))
    (home : String) (w : World) (v : Value) : Except Failure String :=
  let options := { settings.render with objects := objects, currentModule := home }
  roleText ⟨options, w.registry, settings.aliases ++ w.aliases⟩ v

def outlineOf (settings : Settings) (lines : Docstring.Lines) :
    Except Failure (List Rest.Block) :=
  match settings.objects with
  | some _ => Rest.outline (Text.unlines lines)
  | none => .error (.missingAttribute "'App' object" "env")

/-! ## Data descriptors -/

def isSlot (w : World) (v : Value) : Bool :=
  match w.object? v with
  | some (.slot _ _) => true
  | _ => false

def withSlotType (engine : Engine) (settings : Settings) (subject : Subject) (v : Value)
    (lines : Docstring.Lines) : Run Docstring.Lines := do
  if subject.kind != "attribute" || !isSlot (← get) v then return lines
  if lines.any (Text.startsWith ":type:") then return lines
  match ← Hints.descriptorHint? engine v with
  | none => return lines
  | some .none => return lines
  | some hint =>
    let text ← (typeText settings none "" (← get) hint : Except Failure String)
    return lines ++ ["", ":type: " ++ text]

/-! ## Overloads -/

def overloadsOf (engine : Engine) (v : Value) : Run (List Signature) := do
  match ← textAttribute? engine v "__module__",
    ← textAttribute? engine v "__qualname__" with
  | some module, some qualname =>
    let known := ((← get).overloads.find? (·.1 == module)).map (·.2)
    return ((known.getD []).find? (·.1 == qualname)).map (·.2) |>.getD []
  | _, _ => return []

/-- Lists the overloads of a function at the top; tells whether there are any. -/
def withOverloads (engine : Engine) (settings : Settings) (subject : Subject)
    (text : Value → Except Failure String) (v : Value) (lines : Docstring.Lines) :
    Run (Docstring.Lines × Bool) := do
  let isFunction := subject.kind == "function" || subject.kind == "method"
  if !isFunction || !settings.documentOverloads then return (lines, false)
  match Docstring.withoutNoOverloads? lines with
  | some rest => return (rest, false)
  | none =>
    let overloads ← overloadsOf engine v
    if overloads.isEmpty then return (lines, false)
    let listed ← (Docstring.overloadLines text overloads : Except Failure
        Docstring.Lines)
    return (listed ++ lines, true)

/-! ## The result -/

def documentsResult (w : World) (settings : Settings) (subject : Subject) (hint : Value)
    (lines : Docstring.Lines) : Bool :=
  let isData := match w.object? subject.value with
    | some (.property _) => true
    | some (.slot _ _) => true
    | _ => false
  !isClass subject.value && !isData
    && !(subject.kind == "method" && isInitialiserName subject.name)
    && settings.documentResult
    && (settings.documentNone || !Value.identical hint Value.noneType)
    && !(Docstring.hasYields lines && hint.isGenerator)

def describesResult (line : String) : Bool :=
  let text := Text.trimStart line
  Text.startsWith ":return:" text || Text.startsWith ":returns:" text

def withResultDescription (hint : Value) (lines : Docstring.Lines) : Docstring.Lines :=
  match hint.description?.filter (!·.isEmpty) with
  | none => lines
  | some text =>
    if lines.any describesResult then lines else lines ++ [":return: " ++ text]

/-- Gives the type of the result its place.  `blocksOf` tells the blocks of a text. -/
def withResult (settings : Settings)
    (blocksOf : Docstring.Lines → Except Failure (List Rest.Block))
    (text : Value → Except Failure String) (hint : Value) (draft : Draft) :
    Except Failure Draft := do
  let draft := (draft.withLines (withResultDescription hint draft.lines)).inFields
  let (lines, place) ← Docstring.returnPlace blocksOf draft.lines
  return draft.withLines
    (← Docstring.injectReturn lines (← text hint) place settings.resultField)

/-! ## The whole docstring -/

/--
What a documented value is seen as: where its signature and where its types come
from.
-/
structure View where
  /-- The value whose signature counts. -/
  signature : Value
  /-- The value whose types count. -/
  hints : Value
  /-- The function behind all wrappers. -/
  function : Value

/-- The view of something that can be called; `none` if its wrappers go in a circle. -/
def viewOf? (engine : Engine) (subject v : Value) : Run (Option View) := do
  let byClass ← match v with
    | .cls c =>
      do pure (isDefault defaultInit (← initOf c) && !isDefault defaultNew (← newOf c))
    | _ => pure false
  let target ← match v with
    | .cls c => if byClass then newOf c else initOf c
    | _ => pure v
  match ← (unwrap engine target).attempt with
  | .error f => if f.kind == .value then return none else throw f
  | .ok function =>
    return some (if byClass then ⟨subject, v, function⟩
      else ⟨function, function, function⟩)

def signature? (engine : Engine) (settings : Settings) (v : Value) :
    Run (Option Signature) := do
  match ← (evaluatedSignature engine settings.typeAliases v).attempt with
  | .ok signature => return some signature
  | .error f => if f.kind == .value || f.kind == .type then return none else throw f

def settingNames (settings : Settings) : Names :=
  settings.typeAliases.map fun (name, target) => (name, .aliasName target (some false))

/-- The types of a value, with documented aliases in place of what they stand for. -/
def hintsOf (engine : Engine) (settings : Settings) (subject : Subject) (view : View) :
    Run Annotations := do
  let known ← match settings.objects with
    | some objects => knownAliases engine subject.home objects view.function
    | none => pure {}
  let names := Entries.putAll (settingNames settings) known.names
  let hints ← Hints.allHints engine settings.replaced subject.name names view.hints
  return hints.map fun (name, hint) => (name, known.shown hint)

structure Knowledge where
  signature : Option Signature
  hints : Annotations
  /-- The types of instance variables. -/
  inInstance : Annotations
  /-- Whether overloads are listed, which tell the result themselves. -/
  overloaded : Bool
  /-- Whether a result is to be documented at all. -/
  showsResult : Value → Docstring.Lines → Bool

/-- The parameters that are known; none without a signature. -/
def Knowledge.arguments (known : Knowledge) : List Docstring.Argument :=
  match known.signature with
  | none => []
  | some signature => signature.params.map fun param => ⟨param.name, param.default⟩

def withParams (settings : Settings) (text : Value → Except Failure String)
    (known : Knowledge) (draft : Draft) : Except Failure Draft :=
  Docstring.injectParams text settings.fields known.hints draft known.arguments

def withKnownResult (settings : Settings)
    (blocksOf : Docstring.Lines → Except Failure (List Rest.Block))
    (text : Value → Except Failure String) (known : Knowledge) (draft : Draft) :
    Except Failure Draft :=
  match Entries.find? known.hints "return" with
  | some hint =>
    if !known.overloaded && known.showsResult hint draft.lines then
      withResult settings blocksOf text hint draft
    else .ok draft
  | none => .ok draft

def withSignatureTypes (settings : Settings)
    (blocksOf : Docstring.Lines → Except Failure (List Rest.Block))
    (text : Value → Except Failure String) (known : Knowledge)
    (lines : Docstring.Lines) : Except Failure Docstring.Lines := do
  let draft ← withParams settings text known (Draft.ofLines lines)
  return (← withKnownResult settings blocksOf text known draft).lines

def withKnowledge (settings : Settings) (text : Value → Except Failure String)
    (known : Knowledge) (lines : Docstring.Lines) : Except Failure Docstring.Lines := do
  let lines ← withSignatureTypes settings (outlineOf settings) text known lines
  Docstring.injectInstanceTypes text known.inInstance lines

def withTypes (engine : Engine) (settings : Settings) (subject : Subject)
    (inInstance : Annotations) (view : View) (lines : Docstring.Lines) :
    Run Docstring.Lines := do
  let signature ← signature? engine settings view.signature
  let hints ← hintsOf engine settings subject view
  let w ← get
  let text := typeText settings settings.objects subject.home w
  let (lines, overloaded) ← withOverloads engine settings subject text
      view.function lines
  let known : Knowledge :=
    ⟨signature, hints, inInstance, overloaded, documentsResult w settings subject⟩
  (withKnowledge settings text known lines : Except Failure Docstring.Lines)

def docstring (engine : Engine) (settings : Settings) (subject : Subject)
    (lines : Docstring.Lines) : Run Docstring.Lines := do
  let v := match (← get).object? subject.value with
    | some (.property getter) => getter
    | _ => subject.value
  if !(← get).isCallable v then return ← withSlotType engine settings subject v lines
  let inInstance ← match v with
    | .cls c => Hints.instanceHints engine c
    | _ => pure []
  match ← viewOf? engine subject.value v with
  | none => return lines
  | some view => withTypes engine settings subject inInstance view lines

end DocHints.Document
