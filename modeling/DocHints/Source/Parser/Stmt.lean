import DocHints.Source.Parser.Pattern

/-!
# Reading statements

A source file is a list of statements.  A block that should be indented and is
not, or is indented where no block may begin, fails by its indentation;
everything else that does not fit fails as malformed.
-/

namespace DocHints.Source

open Reader

def augmentedOp? : String → Option BinaryOp
  | "|=" => some .bitOr
  | "^=" => some .bitXor
  | "&=" => some .bitAnd
  | "<<=" => some .shiftLeft
  | ">>=" => some .shiftRight
  | "+=" => some .add
  | "-=" => some .sub
  | "*=" => some .mul
  | "@=" => some .matMul
  | "/=" => some .div
  | "//=" => some .floorDiv
  | "%=" => some .mod
  | "**=" => some .pow
  | _ => none

def readValue (fuel : Nat) : Reader Expr := do
  if ← atWord "yield" then readYield fuel else readSequence fuel

def readValues : Nat → Reader (List Expr)
  | 0 => malformed
  | fuel + 1 => do
    let first ← readValue fuel
    if ← tryOp "=" then return first :: (← readValues fuel) else return [first]

/-! ## Imports -/

def readDottedFrom : Nat → String → Reader String
  | 0, _ => malformed
  | fuel + 1, name => do
    if ← tryOp "." then
      let next ← identifier
      readDottedFrom fuel (name ++ "." ++ next)
    else return name

def readDotted (fuel : Nat) : Reader String := do
  readDottedFrom fuel (← identifier)

def readBound : Reader (Option String) := do
  if ← tryWord "as" then return some (← identifier) else return none

def readModuleNames : Nat → Reader (List ImportName)
  | 0 => malformed
  | fuel + 1 => do
    let name ← readDotted fuel
    let bound ← readBound
    if ← tryOp "," then return ⟨name, bound⟩ :: (← readModuleNames fuel)
    else return [⟨name, bound⟩]

def readMemberNames : Nat → Bool → Reader (List ImportName)
  | 0, _ => malformed
  | fuel + 1, bracketed => do
    let name ← identifier
    let bound ← readBound
    if ← tryOp "," then
      if bracketed && (← atOp ")") then return [⟨name, bound⟩]
      else return ⟨name, bound⟩ :: (← readMemberNames fuel bracketed)
    else return [⟨name, bound⟩]

def readDots : Nat → Reader Nat
  | 0 => malformed
  | fuel + 1 => do
    if ← tryOp "." then return 1 + (← readDots fuel)
    else if ← tryOp "..." then return 3 + (← readDots fuel)
    else return 0

def readImportFrom (fuel : Nat) : Reader Stmt := do
  expectWord "from"
  let level ← readDots fuel
  let module ←
    if ← atWord "import" then pure none else do pure (some (← readDotted fuel))
  if level == 0 && module.isNone then malformed
  else
    expectWord "import"
    if ← tryOp "*" then return .importFrom module [⟨"*", none⟩] level
    else if ← tryOp "(" then
      let names ← readMemberNames fuel true
      expectOp ")"
      return .importFrom module names level
    else return .importFrom module (← readMemberNames fuel false) level

def readNames : Nat → Reader (List String)
  | 0 => malformed
  | fuel + 1 => do
    let name ← identifier
    if ← tryOp "," then return name :: (← readNames fuel) else return [name]

/-! ## Simple statements -/

def readAssignment (fuel : Nat) : Reader Stmt := do
  let first ← readValue fuel
  match ← peek with
  | .op ":" =>
    if isSinglePlace first then
      advance
      let annotation ← readExpr fuel
      if ← tryOp "=" then return .annAssign first annotation (some (← readValue fuel))
      else return .annAssign first annotation none
    else malformed
  | .op "=" =>
    advance
    let values ← readValues fuel
    let targets := first :: values.dropLast
    let value := values.getLastD first
    if targets.all (isTarget true (fuel + 1)) then
      return .assign targets value (← tryTypeComment)
    else malformed
  | .op text =>
    match augmentedOp? text with
    | some op =>
      if isSinglePlace first then
        advance
        return .augAssign first op (← readValue fuel)
      else malformed
    | none => return .expr first
  | _ => return .expr first

def readSimple (fuel : Nat) : Reader Stmt := do
  match ← peek with
  | .name "pass" => advance; return .pass
  | .name "break" => advance; return .breakLoop
  | .name "continue" => advance; return .continueLoop
  | .name "return" =>
    advance
    if opensExpression (← peek) then return .giveBack (some (← readSequence fuel))
    else return .giveBack none
  | .name "raise" =>
    advance
    if opensExpression (← peek) then
      let error ← readExpr fuel
      if ← tryWord "from" then return .raise (some error) (some (← readExpr fuel))
      else return .raise (some error) none
    else return .raise none none
  | .name "assert" =>
    advance
    let test ← readExpr fuel
    if ← tryOp "," then return .insist test (some (← readExpr fuel))
    else return .insist test none
  | .name "del" =>
    advance
    let (targets, _) ← readTargetItems fuel
    if targets.all (isTarget false (fuel + 1)) then return .delete targets
    else malformed
  | .name "global" => advance; return .globals (← readNames fuel)
  | .name "nonlocal" => advance; return .nonlocals (← readNames fuel)
  | .name "import" => advance; return .importModules (← readModuleNames fuel)
  | .name "from" => readImportFrom fuel
  | _ => readAssignment fuel

def readLine : Nat → Reader (List Stmt)
  | 0 => malformed
  | fuel + 1 => do
    let first ← readSimple fuel
    if ← tryOp ";" then
      if (← peek) == .newline then
        advance
        return [first]
      else return first :: (← readLine fuel)
    else if (← peek) == .newline then
      advance
      return [first]
    else malformed

/-! ## Compound statements -/

/--
The comment that gives a function's type, on the line of the head or on one of
its own.
-/
def readFunctionComment : Reader (Option String) := do
  let upcoming := ((← get).tokens.take 4).map Token.lexeme
  match upcoming with
  | .typeComment text :: _ =>
    advance
    return some text
  | .newline :: .typeComment text :: .newline :: .indent :: _ =>
    advance
    advance
    return some text
  | _ => return none

def readDecorators : Nat → Reader (List Expr)
  | 0 => malformed
  | fuel + 1 => do
    if ← tryOp "@" then
      let decorator ← readNamed fuel
      if (← peek) == .newline then
        advance
        return decorator :: (← readDecorators fuel)
      else malformed
    else return []

def readWithItem (fuel : Nat) : Reader (Expr × Option Expr) := do
  let context ← readExpr fuel
  if ← tryWord "as" then
    let target ← readTargetItem fuel
    if isTarget true (fuel + 1) target then return (context, some target) else malformed
  else return (context, none)

def readWithItems : Nat → Bool → Reader (List (Expr × Option Expr))
  | 0, _ => malformed
  | fuel + 1, bracketed => do
    let first ← readWithItem fuel
    if ← tryOp "," then
      if bracketed && (← atOp ")") then return [first]
      else return first :: (← readWithItems fuel bracketed)
    else return [first]

def missingBlock : Failure :=
  .badIndentation "expected an indented block"

def readBracketedItems (fuel : Nat) : Reader (List (Expr × Option Expr)) := do
  expectOp "("
  let items ← readWithItems fuel true
  expectOp ")"
  if ← atOp ":" then return items else malformed

def readContexts (fuel : Nat) : Reader (List (Expr × Option Expr)) := do
  if ← atOp "(" then
    let start ← get
    tryCatch (readBracketedItems fuel) fun _ => do
      set start
      readWithItems fuel false
  else readWithItems fuel false

/-- Whether a reader has come to the place from which on the text cannot be divided. -/
def Cursor.atFault (cursor : Cursor) : Bool :=
  match cursor.tokens with
  | ⟨.fault, _, _⟩ :: _ => true
  | _ => false

def readSubject (fuel : Nat) : Reader Expr := do
  let first ← readStarredOrNamed fuel
  let subject ←
    if ← tryOp "," then do pure (Expr.tuple (first :: (← readItems fuel)))
    else
      match first with
      | .starred _ => malformed
      | _ => pure first
  expectOp ":"
  if (← peek) == .newline then
    advance
    return subject
  else malformed

/-- The subject, or `none` where the line is no opening of a `match` statement. -/
def readSubject? (fuel : Nat) : Reader (Option Expr) := do
  let start ← get
  tryCatch (do advance; return some (← readSubject fuel)) fun f => do
    if (← get).atFault then throw f
    else
      set start
      return none

mutual

def readBlock : Nat → Reader (List Stmt)
  | 0 => malformed
  | fuel + 1 => do
    if (← peek) == .newline then
      advance
      if (← peek) == .indent then
        advance
        let body ← readStatements fuel
        if (← peek) == .dedent then
          advance
          return body
        else malformed
      else throw missingBlock
    else readLine fuel

def readStatements : Nat → Reader (List Stmt)
  | 0 => malformed
  | fuel + 1 => do
    match ← peek with
    | .dedent => return []
    | .finish => return []
    | _ =>
      let first ← readStatement fuel
      return first ++ (← readStatements fuel)

def readStatement : Nat → Reader (List Stmt)
  | 0 => malformed
  | fuel + 1 => do
    let line ← peekLine
    match ← peek with
    | .op "@" =>
      let decorators ← readDecorators fuel
      return [← readDefinition fuel line decorators]
    | .name "def" => return [← readDefinition fuel line []]
    | .name "class" => return [← readDefinition fuel line []]
    | .name "async" =>
      match ← peekSecond with
      | .name "def" => return [← readDefinition fuel line []]
      | .name "for" =>
        advance
        return [← readFor fuel true]
      | .name "with" =>
        advance
        return [← readWith fuel true]
      | _ => malformed
    | .name "if" =>
      advance
      return [← readBranch fuel]
    | .name "while" =>
      advance
      let test ← readNamed fuel
      expectOp ":"
      let body ← readBlock fuel
      let orElse ← readElse fuel
      return [.whileLoop test body orElse]
    | .name "for" => return [← readFor fuel false]
    | .name "with" => return [← readWith fuel false]
    | .name "try" =>
      advance
      expectOp ":"
      let body ← readBlock fuel
      let handlers ← readHandlers fuel none
      let orElse ← if handlers.isEmpty then pure [] else readElse fuel
      let final ← readFinally fuel
      if handlers.isEmpty && final.isEmpty then
        throw (.malformed "expected 'except' or 'finally' block")
      else return [.attempt body handlers orElse final]
    | .name "match" =>
      match ← readSubject? fuel with
      | some subject =>
        if (← peek) == .indent then
          advance
          let cases ← readCases fuel
          if (← peek) == .dedent then
            advance
            return [.choose subject cases]
          else malformed
        else throw missingBlock
      | none => readLine fuel
    | _ => readLine fuel

def readDefinition : Nat → Nat → List Expr → Reader Stmt
  | 0, _, _ => malformed
  | fuel + 1, first, decorators => do
    let line ← peekLine
    if ← tryWord "class" then
      let name ← identifier
      let args ←
        if ← tryOp "(" then do
          let args ← readArguments fuel .positional
          expectOp ")"
          pure args
        else pure ⟨[], []⟩
      expectOp ":"
      let body ← readBlock fuel
      let last := (← get).lastLine
      return .classDef ⟨name, args.positional, args.keywords, decorators,
        ⟨first, line, last⟩⟩ body
    else
      let isAsync ← tryWord "async"
      expectWord "def"
      let name ← identifier
      expectOp "("
      let params ← readParamList fuel true ")"
      expectOp ")"
      let returns ← if ← tryOp "->" then do pure (some (← readExpr fuel)) else pure none
      expectOp ":"
      let typeComment ← readFunctionComment
      let body ← readBlock fuel
      let last := (← get).lastLine
      return .function
        ⟨name, isAsync, params, returns, decorators, typeComment,
          ⟨first, line, last⟩⟩ body

def readBranch : Nat → Reader Stmt
  | 0 => malformed
  | fuel + 1 => do
    let test ← readNamed fuel
    expectOp ":"
    let body ← readBlock fuel
    if ← tryWord "elif" then
      let other ← readBranch fuel
      return .branch test body [other]
    else return .branch test body (← readElse fuel)

def readElse : Nat → Reader (List Stmt)
  | 0 => malformed
  | fuel + 1 => do
    if ← tryWord "else" then
      expectOp ":"
      readBlock fuel
    else return []

def readFinally : Nat → Reader (List Stmt)
  | 0 => malformed
  | fuel + 1 => do
    if ← tryWord "finally" then
      expectOp ":"
      readBlock fuel
    else return []

def readFor : Nat → Bool → Reader Stmt
  | 0, _ => malformed
  | fuel + 1, isAsync => do
    expectWord "for"
    let target ← readTargets fuel
    expectWord "in"
    let source ← readSequence fuel
    expectOp ":"
    let _ ← tryTypeComment
    let body ← readBlock fuel
    let orElse ← readElse fuel
    return .forLoop isAsync target source body orElse

def readWith : Nat → Bool → Reader Stmt
  | 0, _ => malformed
  | fuel + 1, isAsync => do
    expectWord "with"
    let items ← readContexts fuel
    expectOp ":"
    let _ ← tryTypeComment
    let body ← readBlock fuel
    return .withBlock isAsync items body

/--
The handlers of a statement, which are all starred or none is; `starred` tells
what those before are.
-/
def readHandlers :
    Nat → Option Bool → Reader (List (Option Expr × Option String × List Stmt))
  | 0, _ => malformed
  | fuel + 1, starred => do
    if ← tryWord "except" then
      let star ← tryOp "*"
      if starred.any (· != star) then malformed
      else
        let error ←
          if !star && (← atOp ":") then pure none else do pure (some (← readExpr fuel))
        let bound ← readBound
        expectOp ":"
        let body ← readBlock fuel
        return (error, bound, body) :: (← readHandlers fuel (some star))
    else return []

def readCases : Nat → Reader (List (Pattern × Option Expr × List Stmt))
  | 0 => malformed
  | fuel + 1 => do
    expectWord "case"
    let pattern ← readPatterns fuel
    let guard ← if ← tryWord "if" then do pure (some (← readNamed fuel)) else pure none
    expectOp ":"
    let body ← readBlock fuel
    let rest ← if ← atWord "case" then readCases fuel else pure []
    return (pattern, guard, body) :: rest

end

/-- The depth of calls that a token list can ask for, with room to spare. -/
def fuelFor (tokens : List Token) : Nat :=
  24 * (tokens.length + 2)

/--
Which of two failures counts: that of the reader, unless it came to the fault of
the text.  A fault further on counts before a block that is missing, if it is
not one of indentation.
-/
def Fault.outweighs (fault : Fault) (cursor : Cursor) (f : Failure) : Bool :=
  cursor.atFault
    || (f.message == missingBlock.message && !fault.atEnd
      && fault.failure.kind == .malformed)

def settle {α : Type} (scan : Scan) (outcome : Except Failure α × Cursor) :
    Except Failure α :=
  match outcome with
  | (.ok v, _) => .ok v
  | (.error f, cursor) =>
    match scan.fault with
    | some fault => .error (if fault.outweighs cursor f then fault.failure else f)
    | none => .error f

def readToEnd (fuel : Nat) : Reader (List Stmt) := do
  let body ← readStatements fuel
  match ← peek with
  | .finish => return body
  | _ => malformed

/-- The statements of a source; `typed` asks for comments that give a type. -/
def readModule (typed : Bool) (source : String) : Except Failure (List Stmt) :=
  let scan := tokenize typed source
  settle scan ((readToEnd (fuelFor scan.tokens)).run.run ⟨scan.tokens, 1⟩)

def readWhole (fuel : Nat) : Reader Expr := do
  let e ← readSequence fuel
  match e with
  | .starred _ => malformed
  | _ =>
    match (← get).tokens.filter (·.lexeme != .newline) with
    | [⟨.finish, _, _⟩] => return e
    | _ => malformed

def readExpression (text : String) : Except Failure Expr :=
  let scan := tokenize false text
  settle scan ((readWhole (fuelFor scan.tokens)).run.run ⟨scan.tokens, 1⟩)

end DocHints.Source
