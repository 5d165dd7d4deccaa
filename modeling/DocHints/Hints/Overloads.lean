import DocHints.Program.Inspect
import DocHints.Source.Plain

/-!
# Overloads of a module

The overloads of a function are gone when its module has run, so they are read
from the source: the functions of the module and of its classes that the mark
for overloads decorates.  Their types stay texts.
-/

namespace DocHints.Hints

open Program
open Source (Stmt Expr FunctionHead ImportName Pattern)

structure Analysis where
  /-- The name of the module that has the mark. -/
  module : Option String := none
  /-- The name of the mark itself. -/
  mark : Option String := none
  found : List (String × List Signature) := []
  deriving Inhabited

structure Position where
  /-- The classes and the function around. -/
  around : List String := []
  inFunction : Bool := false
  inClass : Bool := false

def typingModules : List String :=
  ["typing", "typing_extensions"]

def unreadable : Failure :=
  .withText (.custom "PycodeError") "parsing failed"

def plainText (e : Expr) : Outcome String :=
  match e.plain? with
  | some text => .ok text
  | none => .error unreadable

def plainHint (e : Option Expr) : Outcome (Option Value) :=
  match e with
  | none => .ok none
  | some hint => do return some (.str (← plainText hint))

def plainDefault (e : Option Expr) : Outcome (Option Value) :=
  match e with
  | none => .ok none
  | some default => do return some (.shown (← plainText default))

def signatureOfHead (head : FunctionHead) : Outcome Signature := do
  let params ← head.params.mapM fun param => do
    return (⟨param.name, param.kind, ← plainHint param.annotation,
      ← plainDefault param.default⟩ : SignatureParam)
  return ⟨params, ← plainHint head.returns⟩

namespace Analysis

def seeModule (known : Analysis) (item : ImportName) : Analysis :=
  let bound := item.bound.getD item.name
  if typingModules.contains item.name then { known with module := some bound }
  else if typingModules.any fun module => item.name == module ++ ".overload" then
    { known with mark := some bound }
  else known

def seeName (known : Analysis) (module : Option String) (item : ImportName) :
    Analysis :=
  if item.name == "overload" && (module.map typingModules.contains).getD false then
    { known with mark := some (item.bound.getD item.name) }
  else known

def isMark (known : Analysis) (decorator : Expr) : Bool :=
  match decorator.plain? with
  | none => false
  | some text =>
    known.mark == some text || (known.module.map (· ++ ".overload")) == some text

def add (known : Analysis) (qualname : String) (signature : Signature) : Analysis :=
  let earlier := ((known.found.find? (·.1 == qualname)).map (·.2)).getD []
  { known with
    found := known.found.filter (·.1 != qualname)
      ++ [(qualname, earlier ++ [signature])] }

def seeFunction (known : Analysis) (position : Position) (head : FunctionHead) :
    Outcome Analysis := do
  if head.decorators.any known.isMark then
    return known.add (Text.join "." (position.around ++ [head.name]))
      (← signatureOfHead head)
  else return known

end Analysis

def Position.declares (position : Position) : Bool :=
  !position.inFunction
    || (position.inClass && position.around.getLast? == some "__init__")

/-- The types of declarations must be texts too. -/
def checkDeclaration (position : Position) (target hint : Expr) : Outcome Unit := do
  if !position.declares then return ()
  match target with
  | .name _ =>
    let _ ← plainText hint
  | .attribute (.name _) _ =>
    if position.inFunction then
      let _ ← plainText hint
  | _ => return ()

mutual

def analyseAll (position : Position) : Analysis → List Stmt → Outcome Analysis
  | known, [] => .ok known
  | known, stmt :: rest => do analyseAll position (← analyse position known stmt) rest

/--
Reads one statement and what is inside of it; functions inside of functions are
passed over.
-/
def analyse (position : Position) (known : Analysis) : Stmt → Outcome Analysis
  | .importModules names => .ok (names.foldl Analysis.seeModule known)
  | .importFrom module names _ => .ok (names.foldl (Analysis.seeName · module) known)
  | .annAssign target hint _ => do
    checkDeclaration position target hint
    return known
  | .function head body => do
    if position.inFunction then return known
    let known ← known.seeFunction position head
    let inner :=
      { position with around := position.around ++ [head.name], inFunction := true }
    analyseAll inner known body
  | .classDef head body =>
    let inner :=
      { position with around := position.around ++ [head.name], inClass := true }
    analyseAll inner known body
  | .branch _ body orElse =>
    do analyseAll position (← analyseAll position known body) orElse
  | .whileLoop _ body orElse =>
    do analyseAll position (← analyseAll position known body) orElse
  | .forLoop _ _ _ body orElse =>
    do analyseAll position (← analyseAll position known body) orElse
  | .withBlock _ _ body => analyseAll position known body
  | .attempt body _ orElse _ =>
    do analyseAll position (← analyseAll position known body) orElse
  | .choose _ cases => analyseCases position known cases
  | _ => .ok known

def analyseCases (position : Position) :
    Analysis → List (Pattern × Option Expr × List Stmt) → Outcome Analysis
  | known, [] => .ok known
  | known, (_, _, body) :: rest => do
    analyseCases position (← analyseAll position known body) rest

end

def overloadsIn (source : String) : Outcome (List (String × List Signature)) :=
  match Source.readModule true source with
  | .error _ => .error unreadable
  | .ok tree => do return (← analyseAll {} {} tree).found

/--
Analyses a loaded module and remembers its overloads; tells those that are known
of it.
-/
def analyseModule (module : String) : Run (List (String × List Signature)) := do
  let w ← get
  let known := ((w.overloads.find? (·.1 == module)).map (·.2)).getD []
  match w.moduleName? module "__file__" with
  | some (.str file) =>
    let found ← (overloadsIn ((w.file? file).getD "") : Outcome
        (List (String × List Signature)))
    if found.isEmpty then return known
    set { w with overloads := (module, found) :: w.overloads.filter (·.1 != module) }
    return found
  | _ =>
    if (w.moduleSpace? module).isSome || Library.isNative module then throw unreadable
    return known

end DocHints.Hints
