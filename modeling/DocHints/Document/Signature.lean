import DocHints.Docstring.Initialiser
import DocHints.Document.Settings
import DocHints.Hints.TypeHints

/-!
# Documented signatures

The signature of a value, in the form in which its documentation shows it: types
may be left out or replaced, and the parameter for the instance is left out.
-/

namespace DocHints.Document

open Program

/-! ## The signature of a value -/

def aliasTarget (target : String) : Value :=
  .aliasName target none

def firstPart (name : String) : String :=
  ((Text.dotted name).head?).getD ""

/--
What a name means that only starts the names of aliases: the aliases below it,
and otherwise what the module of that name has.
-/
def aliasPlace : Nat → List (String × String) → String → Run Value
  | 0, _, _ => return .none
  | fuel + 1, aliases, place => do
    let below := aliases.filterMap fun (name, target) =>
      (Text.afterStart? (place ++ ".") name).map fun rest => (rest, target)
    let parts ← (below.map fun entry => firstPart entry.1).eraseDups.mapM fun part => do
      match below.find? (·.1 == part) with
      | some (_, target) => return (part, aliasTarget target)
      | none => return (part, ← aliasPlace fuel aliases (place ++ "." ++ part))
    let w ← get
    let known := match w.moduleSpace? place with
      | some space => (w.space space).names
      | none => []
    return .instanceOf ⟨"", place, .declared, false⟩ (Entries.putAll known parts)

def aliasNames (aliases : List (String × String)) : Run Names := do
  (aliases.map fun entry => firstPart entry.1).eraseDups.mapM fun name => do
    match aliases.find? (·.1 == name) with
    | some (_, target) => return (name, aliasTarget target)
    | none => return (name, ← aliasPlace depthLimit aliases name)

/-- A type as a signature shows it; an alias is shown by its name. -/
def signatureHint : Value → Value
  | .aliasName target _ => .str target
  | v => v

def withHints (hints : Annotations) (signature : Signature) : Signature where
  params := signature.params.map fun param =>
    match Entries.find? hints param.name with
    | some hint => { param with hint := some (signatureHint hint) }
    | none => param
  result :=
    match Entries.find? hints "return" with
    | some hint => some (signatureHint hint)
    | none => signature.result

def evaluatedSignature (engine : Engine) (aliases : List (String × String))
    (v : Value) : Run Signature := do
  let signature ← signatureOf engine v
  match ← (do Hints.bareTypeHints engine (← aliasNames aliases) v : Run
    Annotations).attempt with
  | .ok hints => return withHints hints signature
  | .error _ => return signature

/-! ## Types in signatures -/

def missingHint : Value :=
  .cls ⟨"inspect", "_empty", .library, true⟩

def formattedName (name : String) : Value :=
  .typeVar ⟨"sphinx_autodoc_typehints", name, 0, .invariant⟩ none []

def formattedHint (formatter : Option Formatter) (hint : Option Value) :
    Outcome (Option Value) :=
  match formatter with
  | none => .ok hint
  | some f =>
    match f.answer (hint.getD missingHint) with
    | .error failure => .error failure
    | .ok none => .ok hint
    | .ok (some name) => .ok (some (formattedName name))

def formattedParam (formatter : Option Formatter) (param : SignatureParam) :
    Outcome SignatureParam := do
  return { param with hint := ← formattedHint formatter param.hint }

def formattedSignature (settings : Settings) (signature : Signature) :
    Outcome Signature := do
  let formatter := settings.render.formatter
  let result ←
    if settings.signatureResult then formattedHint formatter signature.result
    else pure signature.result
  let params ←
    if settings.signatureTypes then signature.params.mapM (formattedParam formatter)
    else pure (signature.params.map fun param => { param with hint := none })
  return ⟨params, result⟩

/-! ## The parameter for the instance -/

/-- The name under which a class stores a member that is private to it. -/
def storedName (qualname name : String) : Outcome String :=
  if Text.startsWith "__" name && !Text.endsWith "__" name then
    match (Text.dotted qualname).dropLast.getLast? with
    | some owner => .ok ("_" ++ owner ++ name)
    | none => .error (.outOfRange "list index out of range")
  else .ok name

/-- Follows names from a value; `none` where one of them leads nowhere. -/
def follow? (engine : Engine) : Value → List String → Run (Option Value)
  | v, [] => return some v
  | v, name :: rest => do
    match ← getAttribute? engine v name with
    | none => return none
    | some .none => return none
    | some next => follow? engine next rest

def heldBy (engine : Engine) (owner : Value) (name : String) : Run (Option Value) := do
  let w ← get
  match owner with
  | .cls c => return w.ownMember? c name
  | .module module => return w.moduleName? module name
  | _ =>
    match w.object? owner with
    | some (.function f) => return f.attributes.find? name
    | some (.instanceOf _ attributes) => return attributes.find? name
    | _ =>
      let _ ← getAttribute engine owner "__dict__"
      return none

/-- Whether a stored member takes no instance, or has got it already. -/
def keepsFirst (stored v : Value) : Run Bool := do
  let w ← get
  let unbound := match w.object? stored with
    | some (.classMethod _) => true
    | some (.staticMethod _) => true
    | _ => false
  let bound := match w.object? v with
    | some (.method _ _) => true
    | _ => false
  return unbound || bound

def requiredText (engine : Engine) (v : Value) (name : String) : Run String := do
  return (← getAttribute engine v name).plainText

/--
How many leading parameters of a method are not shown; `none` if the method
cannot be found where its qualified name says.
-/
def hiddenParams? (engine : Engine) (subject : Subject) (v : Value) :
    Run (Option Nat) := do
  let qualname ← requiredText engine v "__qualname__"
  if Text.contains "<locals>" qualname
    && !isDataclassInit subject.name subject.kind qualname then
    warn (.localFunction subject.name) (← locationOf? engine v)
    return none
  match ← moduleOf? engine v with
  | none => return none
  | some module =>
    match ← follow? engine (.module module) (Text.dotted qualname).dropLast with
    | none => return none
    | some owner =>
      let name ← storedName qualname (← requiredText engine v "__name__")
      let stored := (← heldBy engine owner name).getD v
      return some (if ← keepsFirst stored v then 0 else 1)

def leadingParams? (engine : Engine) (subject : Subject) (signature : Signature)
    (v : Value) : Run (Option Nat) := do
  if signature.params.isEmpty then return some 0
  if isClass subject.value
    || (subject.kind == "method" && isInitialiserName subject.name) then
    return some 1
  if subject.kind == "method" then hiddenParams? engine subject v else return some 0

/-! ## The documented signature -/

def receiverOf (v : Value) : Run Value :=
  match v with
  | .cls c => initOf c
  | _ => return v

def isAnnotated (engine : Engine) (v : Value) : Run Bool := do
  match ← (getAttribute? engine v "__annotations__").attempt with
  | .ok stored => return (stored.map isTruthy).getD false
  | .error f => if f.kind == .name || f.kind == .type then return false else throw f

/-- Every backslash twice, since the text is read as markup. -/
def doubleBackslashes (text : String) : String :=
  String.ofList (text.toList.flatMap fun c => if c = '\\' then [c, c] else [c])

/-- The signature that the documentation of a value shows; `none` leaves it as it is. -/
def signatureText? (engine : Engine) (settings : Settings) (subject : Subject) :
    Run (Option String) := do
  if !(← get).isCallable subject.value then return none
  let v ← receiverOf subject.value
  if !(← isAnnotated engine v) then return none
  match ← (unwrap engine v).attempt with
  | .error f => if f.kind == .value then return none else throw f
  | .ok v =>
    let evaluated ← evaluatedSignature engine settings.typeAliases v
    let signature ← (formattedSignature settings evaluated : Outcome Signature)
    match ← leadingParams? engine subject signature v with
    | none => return none
    | some count =>
      let shown := { signature with params := signature.params.drop count }
      return some (doubleBackslashes
        (shown.text (!settings.render.fullyQualified) settings.signatureResult))

end DocHints.Document
