import DocHints.Source.Parser.Basic

/-!
# Reading expressions

One reader for each level of binding strength.  The fuel bounds the depth of the
calls; it is chosen from the number of tokens, of which every loop takes at
least one.
-/

namespace DocHints.Source

open Reader

/--
The binary operators with their binding strength, all of which associate to the
left.
-/
def binaryLevel? : String → Option (Nat × BinaryOp)
  | "|" => some (1, .bitOr)
  | "^" => some (2, .bitXor)
  | "&" => some (3, .bitAnd)
  | "<<" => some (4, .shiftLeft)
  | ">>" => some (4, .shiftRight)
  | "+" => some (5, .add)
  | "-" => some (5, .sub)
  | "*" => some (6, .mul)
  | "@" => some (6, .matMul)
  | "/" => some (6, .div)
  | "//" => some (6, .floorDiv)
  | "%" => some (6, .mod)
  | _ => none

def unaryOp? : String → Option UnaryOp
  | "+" => some .plus
  | "-" => some .minus
  | "~" => some .invert
  | _ => none

def comparison? : Reader (Option CompareOp) := do
  match ← peek with
  | .op "==" => advance; return some .eq
  | .op "!=" => advance; return some .notEq
  | .op "<" => advance; return some .lt
  | .op "<=" => advance; return some .ltE
  | .op ">" => advance; return some .gt
  | .op ">=" => advance; return some .gtE
  | .name "in" => advance; return some .member
  | .name "is" =>
    advance
    if ← tryWord "not" then return some .notSame else return some .same
  | .name "not" =>
    if (← peekSecond) == .name "in" then
      advance
      advance
      return some .notMember
    else return none
  | _ => return none

/-- Text that stands side by side is one text; text and bytes do not mix. -/
def joinTexts (left right : Constant) : Option Constant :=
  match left, right with
  | .str a marked, .str b _ => some (.str (a ++ b) marked)
  | .bytes a, .bytes b => some (.bytes (a ++ b))
  | .template a, .template b => some (.template (a ++ " " ++ b))
  | .template a, .str b _ => some (.template (a ++ " " ++ Text.quote b))
  | .str a _, .template b => some (.template (Text.quote a ++ " " ++ b))
  | _, _ => none

def textConstant? : Lexeme → Option Constant
  | .str content marked => some (.str content marked)
  | .bytes content => some (.bytes content)
  | .template written => some (.template written)
  | _ => none

def adjacentTexts : Nat → Constant → Reader Constant
  | 0, first => return first
  | fuel + 1, first => do
    match textConstant? (← peek) with
    | none => return first
    | some next =>
      advance
      match joinTexts first next with
      | some both => adjacentTexts fuel both
      | none => malformed

def isSinglePlace : Expr → Bool
  | .name _ => true
  | .attribute _ _ => true
  | .subscript _ _ => true
  | _ => false

/-- Whether an expression is a place, or places in brackets that may be `starred`. -/
def isTarget (starred : Bool) : Nat → Expr → Bool
  | 0, _ => false
  | fuel + 1, .starred e => starred && isTarget starred fuel e
  | fuel + 1, .tuple items => items.all (isTarget starred fuel)
  | fuel + 1, .list items => items.all (isTarget starred fuel)
  | _, e => isSinglePlace e

/-- Whether the next token can open an expression, which tells a trailing comma. -/
def opensExpression : Lexeme → Bool
  | .name text =>
    !reserved.contains text
      || ["False", "None", "True", "await", "lambda", "not", "yield"].contains text
  | .op text => ["(", "[", "\x7b", "+", "-", "~", "...", "*", "**"].contains text
  | .newline => false
  | .indent => false
  | .dedent => false
  | .typeComment _ => false
  | .finish => false
  | .fault => false
  | _ => true

/--
A sequence of one item without a comma is that item, any other sequence is a
tuple.
-/
def tupleOf (items : List Expr) (comma : Bool) : Expr :=
  match items, comma with
  | [item], false => item
  | _, _ => .tuple items

/-- What stands in the brackets of a subscript, where a starred item makes a tuple. -/
def indexOf (items : List Expr) (comma : Bool) : Expr :=
  match items with
  | [.starred _] => .tuple items
  | _ => tupleOf items comma

structure Arguments where
  positional : List Expr
  keywords : List (Option String × Expr)
  deriving Inhabited

/--
How far a list of arguments has come.  At its `opening` a generator may stand
alone; by position nothing follows a name, and nothing at all an unpacked
mapping.
-/
inductive ArgumentStage where
  | opening
  | positional
  | named
  | unpacked
  deriving DecidableEq, Repr

def ArgumentStage.afterName : ArgumentStage → ArgumentStage
  | .unpacked => .unpacked
  | _ => .named

def ArgumentStage.afterStar : ArgumentStage → ArgumentStage
  | .opening => .positional
  | stage => stage

def atClause : Reader Bool := do
  return (← atWord "for") || (← atWord "async")

/-- Whether a name comes next that is given a value inside an expression. -/
def atNaming : Reader Bool := do
  match ← peek, ← peekSecond with
  | .name _, .op ":=" => return true
  | _, _ => return false

/-! ## Parameters -/

/-- The name of the item that stands for the slash in a list of parameters. -/
def slashMark : String := "/"

/--
Gives the parameters before a slash their kind and takes the slash out; there is
at most one.
-/
def settleSlash? (params : List (Parameter Expr)) : Option (List (Parameter Expr)) :=
  let before := params.takeWhile (·.name != slashMark)
  match params.drop before.length with
  | [] => some params
  | _ :: after =>
    if after.any (·.name == slashMark) then none
    else some (before.map (fun param => { param with kind := .positionalOnly })
      ++ after)

def tryTypeComment : Reader (Option String) := do
  match ← peek with
  | .typeComment text =>
    advance
    return some text
  | _ => return none

/-- What may follow a parameter; tells whether another one follows. -/
def paramEnd (close : String) : Reader (Option String × Bool) := do
  if ← tryOp "," then
    let typeComment ← tryTypeComment
    return (typeComment, !(← atOp close))
  else
    let typeComment ← tryTypeComment
    if ← atOp close then return (typeComment, false) else malformed

mutual

def readExpr : Nat → Reader Expr
  | 0 => malformed
  | fuel + 1 => do
    if ← atWord "lambda" then readLambda fuel
    else
      let body ← readOr fuel
      if ← tryWord "if" then
        let test ← readOr fuel
        expectWord "else"
        let orElse ← readExpr fuel
        return .conditional test body orElse
      else return body

def readNamed : Nat → Reader Expr
  | 0 => malformed
  | fuel + 1 => do
    if ← atNaming then
      let name ← identifier
      expectOp ":="
      return .named (.name name) (← readExpr fuel)
    else readExpr fuel

def readLambda : Nat → Reader Expr
  | 0 => malformed
  | fuel + 1 => do
    let line ← peekLine
    expectWord "lambda"
    let params ← readParamList fuel false ":"
    expectOp ":"
    let body ← readExpr fuel
    return .lambda line params body

def readOr : Nat → Reader Expr
  | 0 => malformed
  | fuel + 1 => do
    let first ← readAnd fuel
    if ← atWord "or" then
      return .boolean .or (first :: (← readOrRest fuel))
    else return first

def readOrRest : Nat → Reader (List Expr)
  | 0 => malformed
  | fuel + 1 => do
    if ← tryWord "or" then
      let next ← readAnd fuel
      return next :: (← readOrRest fuel)
    else return []

def readAnd : Nat → Reader Expr
  | 0 => malformed
  | fuel + 1 => do
    let first ← readNot fuel
    if ← atWord "and" then
      return .boolean .and (first :: (← readAndRest fuel))
    else return first

def readAndRest : Nat → Reader (List Expr)
  | 0 => malformed
  | fuel + 1 => do
    if ← tryWord "and" then
      let next ← readNot fuel
      return next :: (← readAndRest fuel)
    else return []

def readNot : Nat → Reader Expr
  | 0 => malformed
  | fuel + 1 => do
    if ← tryWord "not" then return .unary .negation (← readNot fuel)
    else
      let first ← readBinary fuel 1
      match ← readComparisons fuel with
      | [] => return first
      | rest => return .compare first rest

def readComparisons : Nat → Reader (List (CompareOp × Expr))
  | 0 => malformed
  | fuel + 1 => do
    match ← comparison? with
    | none => return []
    | some op =>
      let right ← readBinary fuel 1
      return (op, right) :: (← readComparisons fuel)

def readBinary : Nat → Nat → Reader Expr
  | 0, _ => malformed
  | fuel + 1, level => do
    let first ← readUnary fuel
    readBinaryRest fuel level first

def readBinaryRest : Nat → Nat → Expr → Reader Expr
  | 0, _, _ => malformed
  | fuel + 1, level, left => do
    match ← peek with
    | .op text =>
      match binaryLevel? text with
      | some (strength, op) =>
        if level ≤ strength then
          advance
          let right ← readBinary fuel (strength + 1)
          readBinaryRest fuel level (.binary left op right)
        else return left
      | none => return left
    | _ => return left

def readUnary : Nat → Reader Expr
  | 0 => malformed
  | fuel + 1 => do
    match ← peek with
    | .op text =>
      match unaryOp? text with
      | some op =>
        advance
        return .unary op (← readUnary fuel)
      | none => readPower fuel
    | _ => readPower fuel

def readPower : Nat → Reader Expr
  | 0 => malformed
  | fuel + 1 => do
    let base ←
      if ← tryWord "await" then do
        let atom ← readAtom fuel
        pure (Expr.await (← readTrailers fuel atom))
      else do
        let atom ← readAtom fuel
        readTrailers fuel atom
    if ← tryOp "**" then return .binary base .pow (← readUnary fuel)
    else return base

def readTrailers : Nat → Expr → Reader Expr
  | 0, _ => malformed
  | fuel + 1, base => do
    match ← peek with
    | .op "." =>
      advance
      let field ← identifier
      readTrailers fuel (.attribute base field)
    | .op "(" =>
      advance
      let args ← readArguments fuel .opening
      expectOp ")"
      readTrailers fuel (.call base args.positional args.keywords)
    | .op "[" =>
      advance
      let (items, comma) ← readIndexItems fuel
      expectOp "]"
      readTrailers fuel (.subscript base (indexOf items comma))
    | _ => return base

def readIndexItems : Nat → Reader (List Expr × Bool)
  | 0 => malformed
  | fuel + 1 => do
    let first ← readIndexItem fuel
    if ← tryOp "," then
      if ← atOp "]" then return ([first], true)
      else
        let (rest, _) ← readIndexItems fuel
        return (first :: rest, true)
    else return ([first], false)

def readIndexItem : Nat → Reader Expr
  | 0 => malformed
  | fuel + 1 => do
    if ← tryOp "*" then return .starred (← readExpr fuel)
    else if ← atOp ":" then readSlice fuel none
    else if ← atNaming then readNamed fuel
    else
      let first ← readExpr fuel
      if ← atOp ":" then readSlice fuel (some first) else return first

def readSlice : Nat → Option Expr → Reader Expr
  | 0, _ => malformed
  | fuel + 1, lower => do
    expectOp ":"
    let upper ← readSliceBound fuel
    if ← tryOp ":" then
      let step ← readSliceBound fuel
      return .slice lower upper step
    else return .slice lower upper none

def readSliceBound : Nat → Reader (Option Expr)
  | 0 => malformed
  | fuel + 1 => do
    if opensExpression (← peek) then return some (← readExpr fuel) else return none

/-- Arguments up to the closing bracket. -/
def readArguments : Nat → ArgumentStage → Reader Arguments
  | 0, _ => malformed
  | fuel + 1, stage => do
    if ← atOp ")" then return ⟨[], []⟩
    else if ← tryOp "**" then
      let value ← readExpr fuel
      let rest ← readArgumentsRest fuel .unpacked
      return { rest with keywords := (none, value) :: rest.keywords }
    else if ← tryOp "*" then
      if stage == .unpacked then malformed
      else
        let value ← readExpr fuel
        let rest ← readArgumentsRest fuel stage.afterStar
        return { rest with positional := .starred value :: rest.positional }
    else
      let isKeyword :=
        (match ← peek with | .name _ => true | _ => false) && (← peekSecond) == .op "="
      if isKeyword then
        let name ← identifier
        expectOp "="
        let value ← readExpr fuel
        let rest ← readArgumentsRest fuel stage.afterName
        return { rest with keywords := (some name, value) :: rest.keywords }
      else if stage == .named || stage == .unpacked then malformed
      else
        let value ← readNamed fuel
        if stage == .opening && (← atClause) then
          let clauses ← readClauses fuel
          if ← atOp ")" then return ⟨[.generator value clauses], []⟩ else malformed
        else
          let rest ← readArgumentsRest fuel .positional
          return { rest with positional := value :: rest.positional }

def readArgumentsRest : Nat → ArgumentStage → Reader Arguments
  | 0, _ => malformed
  | fuel + 1, stage => do
    if ← tryOp "," then readArguments fuel stage
    else if ← atOp ")" then return ⟨[], []⟩
    else malformed

def readAtom : Nat → Reader Expr
  | 0 => malformed
  | fuel + 1 => do
    match ← peek with
    | .name "None" => advance; return .constant .none
    | .name "True" => advance; return .constant (.bool true)
    | .name "False" => advance; return .constant (.bool false)
    | .name text =>
      if reserved.contains text then malformed
      else
        advance
        return .name text
    | .int n => advance; return .constant (.int n)
    | .float x => advance; return .constant (.float x)
    | .imaginary x => advance; return .constant (.imaginary x)
    | .op "..." => advance; return .constant .ellipsis
    | .op "(" =>
      advance
      let e ← readGroup fuel
      expectOp ")"
      return e
    | .op "[" =>
      advance
      let e ← readListDisplay fuel
      expectOp "]"
      return e
    | .op "\x7b" =>
      advance
      let e ← readBraceDisplay fuel
      expectOp "\x7d"
      return e
    | lexeme =>
      match textConstant? lexeme with
      | some first =>
        advance
        return .constant (← adjacentTexts fuel first)
      | none => malformed

def readGroup : Nat → Reader Expr
  | 0 => malformed
  | fuel + 1 => do
    if ← atOp ")" then return .tuple []
    else if ← atWord "yield" then readYield fuel
    else
      let first ← readStarredOrNamed fuel
      if ← atClause then return .generator first (← readClausesFor fuel first)
      else if ← tryOp "," then
        let rest ← readItems fuel
        return .tuple (first :: rest)
      else
        match first with
        | .starred _ => malformed
        | _ => return first

def readStarredOrNamed : Nat → Reader Expr
  | 0 => malformed
  | fuel + 1 => do
    if ← tryOp "*" then return .starred (← readBinary fuel 1) else readNamed fuel

/--
Items separated by commas, of which there may be none and the last comma may
trail.
-/
def readItems : Nat → Reader (List Expr)
  | 0 => malformed
  | fuel + 1 => do
    if opensExpression (← peek) then
      let first ← readStarredOrNamed fuel
      if ← tryOp "," then return first :: (← readItems fuel) else return [first]
    else return []

def readListDisplay : Nat → Reader Expr
  | 0 => malformed
  | fuel + 1 => do
    if ← atOp "]" then return .list []
    else
      let first ← readStarredOrNamed fuel
      if ← atClause then return .listComp first (← readClausesFor fuel first)
      else if ← tryOp "," then return .list (first :: (← readItems fuel))
      else return .list [first]

def readBraceDisplay : Nat → Reader Expr
  | 0 => malformed
  | fuel + 1 => do
    if ← atOp "\x7d" then return .dict []
    else if ← atOp "**" then return .dict (← readEntries fuel)
    else if (← atOp "*") || (← atNaming) then
      readSetDisplay fuel (← readStarredOrNamed fuel)
    else
      let first ← readExpr fuel
      if ← tryOp ":" then
        let value ← readExpr fuel
        if ← atClause then return .dictComp first value (← readClauses fuel)
        else if ← tryOp "," then
          return .dict ((some first, value) :: (← readEntries fuel))
        else return .dict [(some first, value)]
      else readSetDisplay fuel first

def readSetDisplay : Nat → Expr → Reader Expr
  | 0, _ => malformed
  | fuel + 1, first => do
    if ← atClause then return .setComp first (← readClausesFor fuel first)
    else if ← tryOp "," then return .set (first :: (← readItems fuel))
    else return .set [first]

def readEntries : Nat → Reader (List (Option Expr × Expr))
  | 0 => malformed
  | fuel + 1 => do
    if ← atOp "\x7d" then return []
    else
      let entry ← readEntry fuel
      if ← tryOp "," then return entry :: (← readEntries fuel) else return [entry]

def readEntry : Nat → Reader (Option Expr × Expr)
  | 0 => malformed
  | fuel + 1 => do
    if ← tryOp "**" then return (none, ← readBinary fuel 1)
    else
      let key ← readExpr fuel
      expectOp ":"
      let value ← readExpr fuel
      return (some key, value)

/-- The clauses of a comprehension, whose element cannot be starred. -/
def readClausesFor : Nat → Expr → Reader (List (Clause Expr))
  | 0, _ => malformed
  | fuel + 1, element =>
    match element with
    | .starred _ => malformed
    | _ => readClauses fuel

def readClauses : Nat → Reader (List (Clause Expr))
  | 0 => malformed
  | fuel + 1 => do
    let isAsync ← tryWord "async"
    if ← tryWord "for" then
      let target ← readTargets fuel
      expectWord "in"
      let source ← readOr fuel
      let conditions ← readConditions fuel
      let rest ← if ← atClause then readClauses fuel else pure []
      return ⟨isAsync, target, source, conditions⟩ :: rest
    else malformed

def readConditions : Nat → Reader (List Expr)
  | 0 => malformed
  | fuel + 1 => do
    if ← tryWord "if" then
      let test ← readOr fuel
      return test :: (← readConditions fuel)
    else return []

def readTargets : Nat → Reader Expr
  | 0 => malformed
  | fuel + 1 => do
    let (items, comma) ← readTargetItems fuel
    let target := tupleOf items comma
    if isTarget true (fuel + 1) target then return target else malformed

def readTargetItem : Nat → Reader Expr
  | 0 => malformed
  | fuel + 1 => do
    if ← tryOp "*" then return .starred (← readBinary fuel 1) else readBinary fuel 1

def readTargetItems : Nat → Reader (List Expr × Bool)
  | 0 => malformed
  | fuel + 1 => do
    let first ← readTargetItem fuel
    if ← tryOp "," then
      if opensExpression (← peek) then
        let (rest, _) ← readTargetItems fuel
        return (first :: rest, true)
      else return ([first], true)
    else return ([first], false)

def readYield : Nat → Reader Expr
  | 0 => malformed
  | fuel + 1 => do
    expectWord "yield"
    if ← tryWord "from" then return .yieldFrom (← readExpr fuel)
    else if opensExpression (← peek) then return .yield (some (← readSequence fuel))
    else return .yield none

/-- Expressions separated by commas; a comma makes them a tuple. -/
def readSequence : Nat → Reader Expr
  | 0 => malformed
  | fuel + 1 => do
    let first ←
      if ← tryOp "*" then do pure (Expr.starred (← readBinary fuel 1))
      else readExpr fuel
    if ← tryOp "," then return .tuple (first :: (← readSequenceRest fuel))
    else return first

def readSequenceRest : Nat → Reader (List Expr)
  | 0 => malformed
  | fuel + 1 => do
    if opensExpression (← peek) then
      let first ←
        if ← tryOp "*" then do pure (Expr.starred (← readBinary fuel 1))
        else readExpr fuel
      if ← tryOp "," then return first :: (← readSequenceRest fuel) else return [first]
    else return []

def readParamList : Nat → Bool → String → Reader (List (Parameter Expr))
  | 0, _, _ => malformed
  | fuel + 1, annotated, close => do
    match settleSlash? (← readParams fuel annotated close .standard false) with
    | some params => return params
    | none => malformed

/--
Parameters up to `close`.  `kind` is the kind of the next plain parameter;
`defaulted` tells that an earlier positional parameter has a default.
Annotations are allowed where `annotated` holds.
-/
def readParams : Nat → Bool → String → ParamKind → Bool → Reader (List (Parameter Expr))
  | 0, _, _, _, _ => malformed
  | fuel + 1, annotated, close, kind, defaulted => do
    if ← atOp close then return []
    else if ← tryOp "**" then
      let name ← identifier
      let annotation ← readAnnotation fuel annotated
      let _ ← tryOp ","
      let typeComment ← tryTypeComment
      if ← atOp close then return [⟨name, .keywords, annotation, none, typeComment⟩]
      else malformed
    else if ← tryOp "*" then
      if kind == .keywordOnly then malformed
      else if ← tryOp "," then
        let _ ← tryTypeComment
        if (← atOp close) || (← atOp "**") then malformed
        else readParams fuel annotated close .keywordOnly false
      else
        let name ← identifier
        let annotation ← readStarAnnotation fuel annotated
        let (typeComment, more) ← paramEnd close
        let rest ← if more then readParams fuel annotated close .keywordOnly false
            else pure []
        return ⟨name, .variadic, annotation, none, typeComment⟩ :: rest
    else
      let name ← identifier
      let annotation ← readAnnotation fuel annotated
      let default ← if ← tryOp "=" then do pure (some (← readExpr fuel)) else pure none
      if defaulted && default.isNone && kind != .keywordOnly then malformed
      else
        let (typeComment, more) ← paramEnd close
        let param : Parameter Expr := ⟨name, kind, annotation, default, typeComment⟩
        let defaulted := defaulted || default.isSome
        if !more then return [param]
        else if ← tryOp "/" then
          if kind == .standard then
            let (_, more) ← paramEnd close
            let rest ←
              if more then readParams fuel annotated close .standard defaulted
              else pure []
            return param :: ⟨slashMark, .positionalOnly, none, none, none⟩ :: rest
          else malformed
        else return param :: (← readParams fuel annotated close kind defaulted)

def readAnnotation : Nat → Bool → Reader (Option Expr)
  | 0, _ => malformed
  | fuel + 1, annotated => do
    if annotated then
      if ← tryOp ":" then return some (← readExpr fuel) else return none
    else return none

def readStarAnnotation : Nat → Bool → Reader (Option Expr)
  | 0, _ => malformed
  | fuel + 1, annotated => do
    if annotated then
      if ← tryOp ":" then
        if ← tryOp "*" then return some (.starred (← readBinary fuel 1))
        else return some (← readExpr fuel)
      else return none
    else return none

end

end DocHints.Source
