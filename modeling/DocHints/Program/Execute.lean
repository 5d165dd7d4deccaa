import DocHints.Program.Call
import DocHints.Program.Pattern

/-!
# Executing statements

Statements give names to values, define functions and classes, import modules
and direct the flow.
-/

namespace DocHints.Program

open Source (Expr Pattern Stmt Parameter FunctionHead ClassHead ImportName BinaryOp)

/-! ## Names -/

/-- A private name in the body of a class carries the name of the class. -/
def keptName (scope : Scope) (name : String) : String :=
  if scope.inClass && Text.startsWith "__" name && !Text.endsWith "__" name then
    let parts := (Text.dotted scope.qualifier).dropLast
    "_" ++ Value.dropUnderscores (parts.getLastD "") ++ name
  else name

def keep (scope : Scope) (name : String) (v : Value) : Run Unit :=
  bindName scope (keptName scope name) v

/-! ## Assignments -/

def unpack (v : Value) (count : Nat) : Outcome (List Value) := do
  let items ← itemsOf v
  if items.length == count then return items
  else if items.length < count then
    throw (.badValue
      ("not enough values to unpack (expected " ++ toString count ++ ", got "
      ++ toString items.length ++ ")"))
  else throw (.badValue
    ("too many values to unpack (expected " ++ toString count ++ ")"))

def withItem (collection index v : Value) : Outcome Value :=
  match collection with
  | .dict entries =>
    if entries.any fun entry => Value.equal entry.1 index then
      .ok (.dict (entries.map fun entry =>
        if Value.equal entry.1 index then (entry.1, v) else entry))
    else .ok (.dict (entries ++ [(index, v)]))
  | .list items =>
    match index.integer? with
    | some n =>
      let place := (if n < 0 then n + items.length else n).toNat
      if place < items.length then .ok (.list (items.set place v))
      else .error (.outOfRange "list assignment index out of range")
    | none => .error (.misuse "list indices must be integers or slices")
  | _ =>
    .error (.misuse
      (Text.quote collection.className ++ " object does not support item assignment"))

mutual

def assignTo (engine : Engine) (scope : Scope) : Expr → Value → Run Unit
  | .name id, v => keep scope id v
  | .attribute base field, v => do setAttribute (← engine.evaluate scope base) field v
  | .tuple targets, v => do assignAll engine scope targets (← unpack v targets.length)
  | .list targets, v => do assignAll engine scope targets (← unpack v targets.length)
  | .subscript (.name id) index, v => do
    let collection ← engine.evaluate scope (.name id)
    keep scope id (← withItem collection (← engine.evaluate scope index) v)
  | .subscript _ _, _ => return ()
  | _, _ => throw (notSupported "this target cannot be assigned to")

def assignAll (engine : Engine) (scope : Scope) : List Expr → List Value → Run Unit
  | target :: targets, v :: values => do
    assignTo engine scope target v
    assignAll engine scope targets values
  | _, _ => return ()

end

def annotationValue (engine : Engine) (scope : Scope) (hint : Expr) : Run Value :=
  if scope.postponed then return .str hint.printKept else engine.evaluate scope hint

def annotate (scope : Scope) (name : String) (hint : Value) : Run Unit := do
  let known := match (← get).space scope.target |>.names.find? "__annotations__" with
    | some v => v
    | none => .dict []
  bindName scope "__annotations__" (← withItem known (.str name) hint)

def isFunctionBody (scope : Scope) : Bool :=
  scope.body.isSome && !scope.inClass

def assignAnnotated (engine : Engine) (scope : Scope) (target hint : Expr)
    (value : Option Expr) : Run Unit := do
  match value with
  | some e => assignTo engine scope target (← engine.evaluate scope e)
  | none => pure ()
  if !isFunctionBody scope then
    match target with
    | .name id =>
      annotate scope (keptName scope id) (← annotationValue engine scope hint)
    | _ => if !scope.postponed then let _ ← engine.evaluate scope hint

/-! ## Functions -/

/-- The parameters in the order in which their annotations are stored. -/
def annotationOrder (params : List (Parameter Expr)) : List (Parameter Expr) :=
  let ofKind (kind : Source.ParamKind) : List (Parameter Expr) :=
    params.filter (·.kind == kind)
  ofKind .standard ++ ofKind .positionalOnly ++ ofKind .variadic ++ ofKind .keywordOnly
    ++ ofKind .keywords

def paramAnnotations (engine : Engine) (scope : Scope) :
    List (Parameter Expr) → Run Annotations
  | [] => return []
  | param :: rest => do
    let own ← match param.annotation with
      | some hint => do pure [(param.name, ← annotationValue engine scope hint)]
      | none => pure []
    return own ++ (← paramAnnotations engine scope rest)

def evaluateAll (engine : Engine) (scope : Scope) : List Expr → Run (List Value)
  | [] => return []
  | e :: rest => do
    let v ← engine.evaluate scope e
    return v :: (← evaluateAll engine scope rest)

/-- Applies decorators, the one next to the definition first. -/
def decorate (engine : Engine) (scope : Scope) (v : Value) : List Value → Run Value
  | [] => return v
  | decorator :: rest =>
    do callFrom engine scope decorator [← decorate engine scope v rest] []

def defineFunction (engine : Engine) (scope : Scope) (head : FunctionHead)
    (body : List Stmt) : Run Unit := do
  let decorators ← evaluateAll engine scope head.decorators
  let params ← evaluateParams engine scope head.params
  let hints ← paramAnnotations engine scope (annotationOrder head.params)
  let result ← match head.returns with
    | some hint => do pure [("return", ← annotationValue engine scope hint)]
    | none => pure []
  let f ← newObject (.function {
    name := head.name
    qualname := scope.qualifier ++ head.name
    module := scope.moduleName? (← get)
    params := params
    annotations := hints ++ result
    globals := scope.globals
    around := scope.visible
    source := ⟨scope.file, some (head.span.first, head.span.last)⟩
    postponed := scope.postponed
    body := .statements body })
  keep scope head.name (← decorate engine scope f decorators)

/-! ## Classes -/

def annotationsOfValue : Value → Annotations
  | .dict entries => entries.filterMap fun entry =>
      match entry.1 with
      | .str name => some (name, entry.2)
      | _ => none
  | _ => []

def isAnnotationsEntry (entry : String × Value) : Bool :=
  entry.1 == "__annotations__" && (match entry.2 with | .dict _ => true | _ => false)

def defineClass (engine : Engine) (scope : Scope) (head : ClassHead)
    (body : List Stmt) : Run Unit := do
  let decorators ← evaluateAll engine scope head.decorators
  let given ← evaluateItems engine scope head.bases
  let keywords ← evaluateKeywords engine scope head.keywords
  let bases ← given.mapM fun base => (baseOf base : Outcome Base)
  let qualname := scope.qualifier ++ head.name
  let space ← newSpace {}
  let inner : Scope := { scope with
    body := some space
    around := scope.visible
    inClass := true
    qualifier := qualname ++ "." }
  let _ ← engine.execute inner body
  let w ← get
  let names := (w.space space).names
  let module := match scope.lookup? w "__name__" with
    | some (.str name) => name
    | _ => "builtins"
  let c ← makeClass {
    module := module
    qualname := qualname
    given := given
    bases := bases.map Base.ref
    special := (keywords.find? "metaclass").isSome
    names := names.filter fun entry => !isAnnotationsEntry entry
    annotations :=
      (List.find? isAnnotationsEntry names).map fun entry => annotationsOfValue entry.2
    source := some ⟨scope.file, some (head.span.first, head.span.last)⟩ } bases
  keep scope head.name (← decorate engine scope c decorators)

/-! ## Imports -/

def topPart (name : String) : String :=
  (Text.dotted name).headD name

def importModule (engine : Engine) (scope : Scope) (item : ImportName) : Run Unit := do
  let module ← engine.load item.name
  match item.bound with
  | some name => keep scope name module
  | none => keep scope (topPart item.name) (← engine.load (topPart item.name))

def packageOf (w : World) (scope : Scope) : String :=
  let names := (w.space scope.globals).names
  match names.find? "__package__" with
  | some (.str package) => package
  | _ =>
    match names.find? "__name__" with
    | some (.str name) =>
      if (names.find? "__path__").isSome then name
      else ((Text.splitLast? "." name).map (·.1)).getD ""
    | _ => ""

def packageAbove? : Nat → String → Option String
  | 0, package => some package
  | steps + 1, package =>
    (Text.splitLast? "." package).bind fun halves => packageAbove? steps halves.1

/-- The module that an import names; each level after the first is a step up. -/
def importedName (w : World) (scope : Scope) (module : Option String) (level : Nat) :
    Outcome String :=
  if level == 0 then .ok (module.getD "")
  else
    let package := packageOf w scope
    if package.isEmpty then
      .error (.withText .importing
        "attempted relative import with no known parent package")
    else
      match packageAbove? (level - 1) package with
      | some base =>
        .ok (((module.filter (!·.isEmpty)).map (base ++ "." ++ ·)).getD base)
      | none =>
        .error (.withText .importing
          "attempted relative import beyond top-level package")

def cannotImport (name module : String) : Failure :=
  .importFailed
    ("cannot import name " ++ Text.quote name ++ " from " ++ Text.quote module) module

def isPackage (w : World) (module : String) : Bool :=
  match w.moduleSpace? module with
  | some space => ((w.space space).names.find? "__path__").isSome
  | none => Library.isPackage module

/-- A name of a module, which may be a module inside it. -/
def importedMember (engine : Engine) (module : Value) (name : String) : Run Value := do
  match ← getAttribute? engine module name with
  | some v => return v
  | none =>
    match module with
    | .module path =>
      if isPackage (← get) path then
        let inner := path ++ "." ++ name
        match ← (engine.load inner).attempt with
        | .ok v => return v
        | .error f =>
          if f.kind == .moduleMissing && f.module == some inner then
            throw (cannotImport name path)
          else throw f
      else throw (cannotImport name path)
    | _ => throw (cannotImport name "")

def publicNames (w : World) (module : Value) : Names :=
  match module with
  | .module path =>
    match w.moduleSpace? path with
    | some space =>
      let names := (w.space space).names
      match (names.find? "__all__").map slotNames with
      | some wanted => names.filter fun entry => wanted.contains entry.1
      | none => names.filter fun entry => !Text.startsWith "_" entry.1
    | none => []
  | _ => []

def postponedMark : Value :=
  .instanceOf ⟨"__future__", "_Feature", .library, true⟩
    [("compiler_flag", .int 0x1000000)]

def importMember (engine : Engine) (scope : Scope) (module : Value)
    (item : ImportName) : Run Unit := do
  if item.name == "*" then
    for entry in publicNames (← get) module do
      keep scope entry.1 entry.2
  else keep scope (item.bound.getD item.name) (← importedMember engine module item.name)

def importFrom (engine : Engine) (scope : Scope) (module : Option String)
    (names : List ImportName) (level : Nat) : Run Unit := do
  if level == 0 && module == some "__future__" then
    for item in names do
      keep scope (item.bound.getD item.name) postponedMark
  else
    let source ← engine.load (← importedName (← get) scope module level)
    for item in names do
      importMember engine scope source item

/-! ## Failures as values -/

def isFailureName (name : String) : Bool :=
  ["Error", "Exception", "Warning", "Exit", "Iteration", "Interrupt",
    "Group"].any fun ending =>
    Text.endsWith ending name

def isFailureClass (w : World) (c : ClassRef) : Bool :=
  (w.lineage c).any fun d => d.origin == .library && isFailureName d.name

def failureOf (w : World) (v : Value) : Failure :=
  let ofAttributes (label : String) (attributes : Names) : Failure :=
    let args := match attributes.find? "args" with
      | some (.tuple args) => args
      | _ => []
    let module := match attributes.find? "name" with
      | some (.str name) => some name
      | _ => none
    ⟨.ofLabel label, args, module⟩
  let refused : Failure := .misuse "exceptions must derive from BaseException"
  match v with
  | .cls c => if isFailureClass w c then ⟨.ofLabel c.name, [], none⟩ else refused
  | .instanceOf c attributes =>
    if isFailureClass w c then ofAttributes c.name attributes else refused
  | .object _ =>
    match w.object? v with
    | some (.instanceOf owner attributes) =>
      if isFailureClass w owner then ofAttributes owner.name attributes else refused
    | _ => refused
  | _ => refused

def failureValue (f : Failure) : Value :=
  .instanceOf ⟨"builtins", f.kind.label, .library, true⟩
    (("args", .tuple f.args) ::
      (f.module.map fun name => ("name", Value.str name)).toList)

def handles (v : Value) (f : Failure) : Bool :=
  match v with
  | .cls c => f.kind.families.contains c.name
  | .tuple items => items.any fun item =>
      match item with
      | .cls c => f.kind.families.contains c.name
      | _ => false
  | _ => false

def findHandler? (engine : Engine) (scope : Scope) (f : Failure) :
    List (Option Expr × Option String × List Stmt) →
      Run (Option (Option String × List Stmt))
  | [] => return none
  | (none, name, body) :: _ => return some (name, body)
  | (some e, name, body) :: rest => do
    if handles (← engine.evaluate scope e) f then return some (name, body)
    else findHandler? engine scope f rest

def attemptBody (engine : Engine) (scope : Scope) (body : List Stmt)
    (handlers : List (Option Expr × Option String × List Stmt))
    (orElse : List Stmt) : Run Flow := do
  match ← (engine.execute scope body).attempt with
  | .ok .next => engine.execute scope orElse
  | .ok flow => return flow
  | .error f =>
    match ← findHandler? engine scope f handlers with
    | some (name, handler) =>
      match name with
      | some id => bindName scope id (failureValue f)
      | none => pure ()
      engine.execute scope handler
    | none => throw f

/-! ## Cases -/

/--
Runs the first case that fits; what it gives names to stays, even if its
condition fails.
-/
def chooseCase (engine : Engine) (scope : Scope) (v : Value) :
    List (Pattern × Option Expr × List Stmt) → Run Flow
  | [] => return .next
  | (pattern, guard, body) :: rest => do
    match ← fit engine scope pattern v with
    | none => chooseCase engine scope v rest
    | some names =>
      for entry in names do
        keep scope entry.1 entry.2
      let holds ← match guard with
        | some test => do pure (isTruthy (← engine.evaluate scope test))
        | none => pure true
      if holds then engine.execute scope body else chooseCase engine scope v rest

/-! ## Loops -/

def loopOver (engine : Engine) (scope : Scope) (target : Expr) (body : List Stmt) :
    List Value → Run Flow
  | [] => return .next
  | v :: rest => do
    assignTo engine scope target v
    match ← engine.execute scope body with
    | .breakLoop => return .breakLoop
    | .giveBack result => return .giveBack result
    | _ => loopOver engine scope target body rest

def loopWhile (engine : Engine) (scope : Scope) (test : Expr) (body : List Stmt) :
    Nat → Run Flow
  | 0 => throw .tooDeep
  | fuel + 1 => do
    if isTruthy (← engine.evaluate scope test) then
      match ← engine.execute scope body with
      | .breakLoop => return .breakLoop
      | .giveBack result => return .giveBack result
      | _ => loopWhile engine scope test body fuel
    else return .next

/-- What follows a loop: its other branch, unless it was left early. -/
def afterLoop (engine : Engine) (scope : Scope) (orElse : List Stmt) : Flow → Run Flow
  | .next => engine.execute scope orElse
  | .breakLoop => return .next
  | flow => return flow

/-! ## Statements -/

def loopLimit : Nat := 10000

def deleteTarget (scope : Scope) : Expr → Run Unit
  | .name id => do
    if (((← get).space scope.target).names.find? id).isNone then
      throw (.undefinedName id)
    modify fun w => w.setSpace scope.target fun names => names.remove id
  | _ => return ()

def executeOne (engine : Engine) (scope : Scope) (stmt : Stmt) : Run Flow := do
  match stmt with
  | .function head body =>
    defineFunction engine scope head body
    return .next
  | .classDef head body =>
    defineClass engine scope head body
    return .next
  | .expr e =>
    let _ ← engine.evaluate scope e
    return .next
  | .assign targets value _ =>
    let v ← engine.evaluate scope value
    for target in targets do
      assignTo engine scope target v
    return .next
  | .augAssign target op value =>
    let left ← engine.evaluate scope target
    assignTo engine scope target (← binaryValue op left (← engine.evaluate scope value))
    return .next
  | .annAssign target hint value =>
    assignAnnotated engine scope target hint value
    return .next
  | .giveBack none => return .giveBack .none
  | .giveBack (some e) => return .giveBack (← engine.evaluate scope e)
  | .raise none _ =>
    throw (.withText (.custom "RuntimeError") "No active exception to reraise")
  | .raise (some e) _ =>
    let v ← engine.evaluate scope e
    throw (failureOf (← get) v)
  | .insist test message =>
    if isTruthy (← engine.evaluate scope test) then return .next
    let args ← match message with
      | some e => do pure [← engine.evaluate scope e]
      | none => pure []
    throw ⟨.custom "AssertionError", args, none⟩
  | .delete targets =>
    for target in targets do
      deleteTarget scope target
    return .next
  | .importModules names =>
    for item in names do
      importModule engine scope item
    return .next
  | .importFrom module names level =>
    importFrom engine scope module names level
    return .next
  | .globals _ => return .next
  | .nonlocals _ => return .next
  | .pass => return .next
  | .breakLoop => return .breakLoop
  | .continueLoop => return .continueLoop
  | .branch test body orElse =>
    if isTruthy (← engine.evaluate scope test) then engine.execute scope body
    else engine.execute scope orElse
  | .whileLoop test body orElse =>
    afterLoop engine scope orElse (← loopWhile engine scope test body loopLimit)
  | .forLoop _ target source body orElse =>
    let items ← itemsOf (← engine.evaluate scope source)
    afterLoop engine scope orElse (← loopOver engine scope target body items)
  | .withBlock _ items body =>
    for item in items do
      let v ← engine.evaluate scope item.1
      match item.2 with
      | some target => assignTo engine scope target v
      | none => pure ()
    engine.execute scope body
  | .attempt body handlers orElse final =>
    let outcome ← (attemptBody engine scope body handlers orElse).attempt
    match ← engine.execute scope final with
    | .next =>
      match outcome with
      | .ok flow => return flow
      | .error f => throw f
    | flow => return flow
  | .choose subject cases =>
    chooseCase engine scope (← engine.evaluate scope subject) cases

def executeWith (engine : Engine) (scope : Scope) : List Stmt → Run Flow
  | [] => return .next
  | stmt :: rest => do
    match ← executeOne engine scope stmt with
    | .next => executeWith engine scope rest
    | flow => return flow

end DocHints.Program
