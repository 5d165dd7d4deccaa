import DocHints.Program.Engine
import DocHints.Source.Printer

/-!
# Evaluating expressions

The value of an expression in a scope.  Calls and inner expressions go through
the engine.
-/

namespace DocHints.Program

open Source (Expr Constant BinaryOp UnaryOp BoolOp CompareOp Parameter)

def constantValue : Constant → Value
  | .none => .none
  | .bool b => .bool b
  | .ellipsis => .ellipsis
  | .int n => .int n
  | .float x => .float x
  | .imaginary x => .shown (Source.imaginaryText x)
  | .str content _ => .str content
  | .bytes content => .bytes content
  | .template written => .str written

/-! ## Operators -/

def unsupported (op : String) (left right : Value) : Failure :=
  .misuse ("unsupported operand type(s) for " ++ op ++ ": "
    ++ Text.quote left.className ++ " and "
    ++ Text.quote right.className)

def integers? (a b : Value) : Option (Int × Int) :=
  match a, b with
  | .float _, _ => none
  | _, .float _ => none
  | _, _ =>
    match a.integer?, b.integer? with
    | some m, some n => some (m, n)
    | _, _ => none

def zeroDivision (message : String) : Failure :=
  .withText (.custom "ZeroDivisionError") message

def divide (op : BinaryOp) (m n : Int) : Outcome Value :=
  if n == 0 then
    .error (zeroDivision (match op with
      | .div => "division by zero"
      | .mod => "integer modulo by zero"
      | _ => "integer division or modulo by zero"))
  else
    match op with
    | .div => .ok (.float (.ofQuotient ((m < 0) != (n < 0)) m.natAbs n.natAbs))
    | .mod => .ok (.int (Int.fmod m n))
    | _ => .ok (.int (Int.fdiv m n))

def isNumber : Value → Bool
  | .bool _ => true
  | .int _ => true
  | .float _ => true
  | _ => false

/-- Division of numbers; among other numbers only that by zero is known. -/
def divideNumbers (op : BinaryOp) (left right : Value) (refused : Outcome Value) :
    Outcome Value :=
  match integers? left right with
  | some (m, n) => divide op m n
  | none =>
    if isNumber left && isNumber right && right.integer? == some 0 then
      .error (zeroDivision (match op with
        | .div => "float division by zero"
        | .mod => "float modulo"
        | _ => "float floor division by zero"))
    else refused

def concatenated (left right : Value) (refused : Outcome Value) : Outcome Value :=
  let mismatch (kind : String) : Outcome Value :=
    .error (.misuse
      ("can only concatenate " ++ kind ++ " (not \"" ++ right.className ++ "\") to "
      ++ kind))
  match left, right with
  | .str a, .str b => .ok (.str (a ++ b))
  | .str _, _ => mismatch "str"
  | .list as, .list bs => .ok (.list (as ++ bs))
  | .list _, _ => mismatch "list"
  | .tuple as, .tuple bs => .ok (.tuple (as ++ bs))
  | .tuple _, _ => mismatch "tuple"
  | .bytes a, .bytes b => .ok (.bytes (a ++ b))
  | _, _ =>
    match integers? left right with
    | some (m, n) => .ok (.int (m + n))
    | none => refused

def binaryValue (op : BinaryOp) (left right : Value) : Outcome Value :=
  let refused : Outcome Value := .error (unsupported op.text left right)
  match op with
  | .bitOr =>
    match left, right with
    | .int m, .int n => .ok (.int (Int.ofNat (m.toNat ||| n.toNat)))
    | .dict first, .dict second =>
      .ok (.dict (first.filter (fun entry => !second.any (Value.equal entry.1 ·.1))
        ++ second))
    | _, _ => Value.bar left right
  | .add => concatenated left right refused
  | .sub =>
    match integers? left right with
    | some (m, n) => .ok (.int (m - n))
    | none => refused
  | .mul =>
    match left, right with
    | .str a, .int n => .ok (.str (Text.join "" (List.replicate n.toNat a)))
    | .list as, .int n => .ok (.list (List.replicate n.toNat as).flatten)
    | .tuple as, .int n => .ok (.tuple (List.replicate n.toNat as).flatten)
    | _, _ =>
      match integers? left right with
      | some (m, n) => .ok (.int (m * n))
      | none => refused
  | .div => divideNumbers op left right refused
  | .floorDiv => divideNumbers op left right refused
  | .mod => divideNumbers op left right refused
  | .pow =>
    match integers? left right with
    | some (m, n) =>
      if 0 ≤ n then .ok (.int (Int.pow m n.toNat))
      else if m == 0 then
        .error (zeroDivision "0.0 cannot be raised to a negative power")
      else refused
    | none => refused
  | _ => refused

def unaryValue (op : UnaryOp) (v : Value) : Outcome Value :=
  match op with
  | .negation => .ok (.bool (!isTruthy v))
  | _ =>
    match v, op with
    | .float x, .minus =>
      match x with
      | .finite negative mantissa exponent =>
        .ok (.float (.finite (!negative) mantissa exponent))
      | .infinite negative => .ok (.float (.infinite (!negative)))
      | .nan => .ok v
    | .float _, .plus => .ok v
    | _, _ =>
      match v.integer?, op with
      | some n, .minus => .ok (.int (-n))
      | some n, .plus => .ok (.int n)
      | some n, _ => .ok (.int (-n - 1))
      | none, _ =>
        .error (.misuse
          ("bad operand type for unary " ++ op.text ++ ": " ++ Text.quote v.className))

def memberOf (item container : Value) : Outcome Bool :=
  match container, item with
  | .list items, _ => .ok (items.any (Value.equal item))
  | .tuple items, _ => .ok (items.any (Value.equal item))
  | .dict entries, _ => .ok (entries.any fun entry => Value.equal item entry.1)
  | .str text, .str part => .ok (Text.contains part text)
  | _, _ =>
    .error (.misuse
      ("argument of type " ++ Text.quote container.className ++ " is not iterable"))

def isSame (a b : Value) : Bool :=
  match a, b with
  | .none, .none => true
  | .ellipsis, .ellipsis => true
  | .bool x, .bool y => x == y
  | _, _ => Value.identical a b

def compareValue (op : CompareOp) (left right : Value) : Outcome Bool :=
  let ordered (accept : Ordering → Bool) : Outcome Bool :=
    match order? left right with
    | some o => .ok (accept o)
    | none =>
      .error (.misuse (Text.quote op.text ++ " not supported between instances of "
        ++ Text.quote left.className ++ " and " ++ Text.quote right.className))
  match op with
  | .eq => .ok (Value.equal left right)
  | .notEq => .ok (!Value.equal left right)
  | .lt => ordered (· == .lt)
  | .ltE => ordered (· != .gt)
  | .gt => ordered (· == .gt)
  | .gtE => ordered (· != .lt)
  | .same => .ok (isSame left right)
  | .notSame => .ok (!isSame left right)
  | .member => memberOf left right
  | .notMember => (memberOf left right).map (!·)

/-! ## Parts of expressions -/

def itemsOf (v : Value) : Outcome (List Value) :=
  match v with
  | .list items => .ok items
  | .tuple items => .ok items
  | .dict entries => .ok (entries.map (·.1))
  | .str text => .ok (text.toList.map fun c => .str (String.ofList [c]))
  | _ => .error (.misuse (Text.quote v.className ++ " object is not iterable"))

/-- The values of a list of expressions; a starred one gives all of its items. -/
def evaluateItems (engine : Engine) (scope : Scope) : List Expr → Run (List Value)
  | [] => return []
  | .starred e :: rest => do
    let items ← itemsOf (← engine.evaluate scope e)
    return items ++ (← evaluateItems engine scope rest)
  | e :: rest => do
    let v ← engine.evaluate scope e
    return v :: (← evaluateItems engine scope rest)

/-- The arguments given by name; one without a name gives all of its entries. -/
def evaluateKeywords (engine : Engine) (scope : Scope) :
    List (Option String × Expr) → Run Names
  | [] => return []
  | (some name, e) :: rest => do
    let v ← engine.evaluate scope e
    return (name, v) :: (← evaluateKeywords engine scope rest)
  | (none, e) :: rest => do
    let entries := match ← engine.evaluate scope e with
      | .dict entries => entries.filterMap fun entry =>
          match entry.1 with
          | .str name => some (name, entry.2)
          | _ => none
      | _ => []
    return entries ++ (← evaluateKeywords engine scope rest)

def evaluateEntries (engine : Engine) (scope : Scope) :
    List (Option Expr × Expr) → Run (List (Value × Value))
  | [] => return []
  | (some key, e) :: rest => do
    let k ← engine.evaluate scope key
    let v ← engine.evaluate scope e
    return (k, v) :: (← evaluateEntries engine scope rest)
  | (none, e) :: rest => do
    let entries := match ← engine.evaluate scope e with
      | .dict entries => entries
      | _ => []
    return entries ++ (← evaluateEntries engine scope rest)

/-- The first operand that decides, or the last one. -/
def evaluateBoolean (engine : Engine) (scope : Scope) (op : BoolOp) :
    List Expr → Run Value
  | [] => return .none
  | [e] => engine.evaluate scope e
  | e :: rest => do
    let v ← engine.evaluate scope e
    if isTruthy v == (op == .or) then return v else evaluateBoolean engine scope op rest

def evaluateComparisons (engine : Engine) (scope : Scope) (left : Value) :
    List (CompareOp × Expr) → Run Value
  | [] => return .bool true
  | (op, e) :: rest => do
    let right ← engine.evaluate scope e
    if ← compareValue op left right then
      evaluateComparisons engine scope right rest
    else return .bool false

def evaluateParams (engine : Engine) (scope : Scope) :
    List (Parameter Expr) → Run (List SignatureParam)
  | [] => return []
  | param :: rest => do
    let default ← match param.default with
      | some e => do pure (some (← engine.evaluate scope e))
      | none => pure none
    return ⟨param.name, param.kind, none, default⟩ ::
      (← evaluateParams engine scope rest)

/-- An index in brackets; a class may say itself what it means. -/
def evaluateSubscript (engine : Engine) (head index : Value) : Run Value := do
  let w ← get
  match head with
  | .cls c =>
    match w.classMember? c "__class_getitem__" with
    | some stored =>
      match w.object? stored with
      | some (.classMethod f) => engine.call f [head, index] []
      | _ => engine.call stored [head, index] []
    | none => Value.subscript w.subscription head index
  | .dict _ => Value.subscript w.subscription head index
  | _ =>
    if isStandIn head then return standIn ((head.home?).getD "") index.plainText
    else Value.subscript w.subscription head index

def sliceItems (items : List Value) (start stop : Option Int) : List Value :=
  let size : Int := items.length
  let place (n : Int) : Nat := ((if n < 0 then n + size else n).toNat)
  let first := (start.map place).getD 0
  let last := (stop.map place).getD items.length
  (items.take last).drop first

def evaluateSlice (engine : Engine) (scope : Scope) (head : Value)
    (lower upper : Option Expr) : Run Value := do
  let bound (e? : Option Expr) : Run (Option Int) :=
    match e? with
    | some e => do return (← engine.evaluate scope e).integer?
    | none => pure none
  let start ← bound lower
  let stop ← bound upper
  match head with
  | .list items => return .list (sliceItems items start stop)
  | .tuple items => return .tuple (sliceItems items start stop)
  | _ => throw (.misuse (Text.quote head.className ++ " object is not subscriptable"))

def appendTo (scope : Scope) (name : String) (items args : List Value) : Run Value := do
  let changed : Value := .list (items ++ args)
  bindName scope name changed
  return .none

def callFrom (engine : Engine) (scope : Scope) (f : Value) (args : List Value)
    (keywords : Names) : Run Value := do
  modify fun w => { w with running := (scope.moduleName? w).getD "__main__" }
  engine.call f args keywords

def makeLambda (engine : Engine) (scope : Scope) (line : Nat)
    (params : List (Parameter Expr)) (body : Expr) : Run Value := do
  let made ← evaluateParams engine scope params
  newObject (.function {
    name := "<lambda>"
    qualname := scope.qualifier ++ "<lambda>"
    module := scope.moduleName? (← get)
    params := made
    globals := scope.globals
    around := scope.visible
    source := ⟨scope.file, some (line, line)⟩
    postponed := scope.postponed
    body := .expression body })

def notSupported (what : String) : Failure :=
  .withText (.custom "NotImplementedError") what

def evaluateWith (engine : Engine) (scope : Scope) (e : Expr) : Run Value := do
  match e with
  | .name id =>
    match scope.lookup? (← get) id with
    | some v => return v
    | none => throw (.undefinedName id)
  | .constant c => return constantValue c
  | .attribute base field => getAttribute engine (← engine.evaluate scope base) field
  | .subscript base (.slice lower upper _) =>
    evaluateSlice engine scope (← engine.evaluate scope base) lower upper
  | .subscript base index =>
    let head ← engine.evaluate scope base
    evaluateSubscript engine head (← engine.evaluate scope index)
  | .call (.attribute (.name id) "append") args [] =>
    match scope.lookup? (← get) id with
    | some (.list items) => appendTo scope id items (← evaluateItems engine scope args)
    | _ =>
      let f ← engine.evaluate scope (.attribute (.name id) "append")
      callFrom engine scope f (← evaluateItems engine scope args) []
  | .call f args keywords =>
    let f ← engine.evaluate scope f
    let args ← evaluateItems engine scope args
    callFrom engine scope f args (← evaluateKeywords engine scope keywords)
  | .tuple items => return .tuple (← evaluateItems engine scope items)
  | .list items => return .list (← evaluateItems engine scope items)
  | .set items => return .list (← evaluateItems engine scope items)
  | .dict entries => return .dict (← evaluateEntries engine scope entries)
  | .starred inner => engine.evaluate scope inner
  | .binary left op right =>
    let l ← engine.evaluate scope left
    binaryValue op l (← engine.evaluate scope right)
  | .unary op operand => unaryValue op (← engine.evaluate scope operand)
  | .boolean op operands => evaluateBoolean engine scope op operands
  | .compare left rest =>
    evaluateComparisons engine scope (← engine.evaluate scope left) rest
  | .conditional test body orElse =>
    if isTruthy (← engine.evaluate scope test) then engine.evaluate scope body
    else engine.evaluate scope orElse
  | .lambda line params body => makeLambda engine scope line params body
  | .named (.name id) value =>
    let v ← engine.evaluate scope value
    bindName scope id v
    return v
  | _ => throw (notSupported "this expression cannot be evaluated")

end DocHints.Program
