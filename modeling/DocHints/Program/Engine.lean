import DocHints.Program.Object

/-!
# Scopes and engines

A scope tells where the names of a piece of code are found and kept.  An engine
is what evaluating, executing, calling and importing need of each other; each of
them is defined for an arbitrary engine, and the engine of a given depth is made
from the one below it.
-/

namespace DocHints.Program

open Source (Expr Stmt)

structure Scope where
  /-- Names that come before all others. -/
  given : Names := []
  /-- The space of the body that runs; a module's body has none of its own. -/
  body : Option Nat := none
  /-- The spaces of the functions around the body, the nearest one first. -/
  around : List Nat := []
  globals : Nat
  /-- Whether the body is that of a class. -/
  inClass : Bool := false
  /-- Whether annotations are kept as texts. -/
  postponed : Bool := false
  file : String := "<string>"
  /-- What stands before the names of definitions in their qualified names. -/
  qualifier : String := ""
  deriving Inhabited

inductive Flow where
  | next
  | breakLoop
  | continueLoop
  | giveBack (v : Value)
  deriving Inhabited

structure Engine where
  evaluate : Scope → Expr → Run Value
  execute : Scope → List Stmt → Run Flow
  call : Value → List Value → Names → Run Value
  /-- Imports a module by its full name and gives that module. -/
  load : String → Run Value

def Engine.exhausted : Engine where
  evaluate _ _ := throw .tooDeep
  execute _ _ := throw .tooDeep
  call _ _ _ := throw .tooDeep
  load _ := throw .tooDeep

namespace Scope

/-- The value of a name, from the nearest place that has it. -/
def lookup? (w : World) (scope : Scope) (name : String) : Option Value :=
  let inSpace (n : Nat) : Option Value := (w.space n).names.find? name
  let found :=
    scope.given.find? name <|> scope.body.bind inSpace
      <|> scope.around.findSome? inSpace
      <|> inSpace scope.globals
  match found with
  | some v => some v
  | none =>
    if (w.space scope.globals).bare then none
    else if name == "__name__" then some (.str "builtins")
    else Library.builtin? name

def target (scope : Scope) : Nat :=
  scope.body.getD scope.globals

def visible (scope : Scope) : List Nat :=
  match scope.body with
  | some n => if scope.inClass then scope.around else n :: scope.around
  | none => scope.around

def moduleName? (w : World) (scope : Scope) : Option String :=
  match (w.space scope.globals).names.find? "__name__" with
  | some (.str name) => some name
  | _ => none

end Scope

def bindName (scope : Scope) (name : String) (v : Value) : Run Unit :=
  setName scope.target name v

/-! ## Attributes that may need a call -/

def getAttribute (engine : Engine) (v : Value) (name : String) : Run Value := do
  match ← find v name with
  | .value found => return found
  | .computed getter receiver => engine.call getter [receiver] []
  | .missing => throw (.missingAttribute (ownerText v) name)

/-- An attribute, or `none` where it is missing; other failures stay failures. -/
def getAttribute? (engine : Engine) (v : Value) (name : String) :
    Run (Option Value) := do
  match ← (getAttribute engine v name).attempt with
  | .ok found => return some found
  | .error f => if f.kind == .attribute then return none else throw f

def textAttribute? (engine : Engine) (v : Value) (name : String) :
    Run (Option String) := do
  match ← getAttribute? engine v name with
  | some (.str s) => return some s
  | _ => return none

/-! ## Truth and order -/

def isTruthy : Value → Bool
  | .none => false
  | .str s => !s.isEmpty
  | v => !v.isVacant

mutual

def order? : Value → Value → Option Ordering
  | .str a, b =>
    match b with
    | .str b => some (compareOfLessAndEq a b)
    | _ => none
  | .tuple as, b =>
    match b with
    | .tuple bs => orderLists? as bs
    | _ => none
  | .list as, b =>
    match b with
    | .list bs => orderLists? as bs
    | _ => none
  | a, b =>
    match a.integer?, b.integer? with
    | some m, some n => some (compare m n)
    | _, _ => none

def orderLists? : List Value → List Value → Option Ordering
  | [], [] => some .eq
  | [], _ => some .lt
  | _, [] => some .gt
  | a :: as, b :: bs =>
    match order? a b with
    | some .eq => orderLists? as bs
    | other => other

end

end DocHints.Program
