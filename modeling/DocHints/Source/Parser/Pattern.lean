import DocHints.Source.Parser.Expr

/-!
# Reading patterns

The patterns of a `match` statement.  The words `match`, `case` and `_` are
ordinary names everywhere else, so a statement that opens with `match` is read
as such only if its first line is one.
-/

namespace DocHints.Source

open Reader

def numberConstant? : Lexeme → Option Constant
  | .int n => some (.int n)
  | .float x => some (.float x)
  | .imaginary x => some (.imaginary x)
  | _ => none

def readSigned : Reader Expr := do
  let negative ← tryOp "-"
  match numberConstant? (← peek) with
  | some c =>
    advance
    return if negative then .unary .minus (.constant c) else .constant c
  | none => malformed

def isReal : Expr → Bool
  | .constant (.imaginary _) => false
  | .unary _ (.constant (.imaginary _)) => false
  | _ => true

def readSign? : Reader (Option BinaryOp) := do
  if ← tryOp "+" then return some .add
  else if ← tryOp "-" then return some .sub
  else return none

/-- A number, or a real one with an imaginary one added or taken away. -/
def readNumber : Reader Expr := do
  let first ← readSigned
  match ← readSign?, ← peek with
  | none, _ => return first
  | some op, .imaginary x =>
    advance
    if isReal first then return .binary first op (.constant (.imaginary x))
    else malformed
  | some _, _ => malformed

def readLiteral? (fuel : Nat) : Reader (Option Expr) := do
  match ← peek with
  | .name "None" => advance; return some (.constant .none)
  | .name "True" => advance; return some (.constant (.bool true))
  | .name "False" => advance; return some (.constant (.bool false))
  | .op "-" => return some (← readNumber)
  | lexeme =>
    if (numberConstant? lexeme).isSome then return some (← readNumber)
    else
      match textConstant? lexeme with
      | some first =>
        advance
        return some (.constant (← adjacentTexts fuel first))
      | none => return none

def literalPattern : Expr → Pattern
  | .constant .none => .singleton .none
  | .constant (.bool b) => .singleton (.bool b)
  | e => .value e

def readAttributes : Nat → Expr → Reader Expr
  | 0, _ => malformed
  | fuel + 1, base => do
    if ← tryOp "." then
      let field ← identifier
      readAttributes fuel (.attribute base field)
    else return base

/-- A key of a mapping, which is written out or an attribute. -/
def readKey (fuel : Nat) : Reader Expr := do
  match ← readLiteral? fuel with
  | some e => return e
  | none =>
    let name ← identifier
    match ← readAttributes fuel (.name name) with
    | .name _ => malformed
    | e => return e

def readTargetName : Reader String := do
  let name ← identifier
  if name == "_" then malformed else return name

def opensPattern : Lexeme → Bool
  | .name text => !reserved.contains text || ["False", "None", "True"].contains text
  | .op text => ["(", "[", "\x7b", "-", "*"].contains text
  | lexeme => (numberConstant? lexeme).isSome || (textConstant? lexeme).isSome

mutual

/-- The patterns of a case or of a pair of brackets; a comma makes them a sequence. -/
def readPatterns : Nat → Reader Pattern
  | 0 => malformed
  | fuel + 1 => do
    let first ← readStarredPattern fuel
    if ← tryOp "," then return .sequence (first :: (← readPatternItems fuel))
    else
      match first with
      | .others _ => malformed
      | _ => return first

def readPatternItems : Nat → Reader (List Pattern)
  | 0 => malformed
  | fuel + 1 => do
    if opensPattern (← peek) then
      let first ← readStarredPattern fuel
      if ← tryOp "," then return first :: (← readPatternItems fuel) else return [first]
    else return []

def readStarredPattern : Nat → Reader Pattern
  | 0 => malformed
  | fuel + 1 => do
    if ← tryOp "*" then
      let name ← identifier
      return .others (if name == "_" then none else some name)
    else readPattern fuel

def readPattern : Nat → Reader Pattern
  | 0 => malformed
  | fuel + 1 => do
    let first ←
      match ← readAlternatives fuel with
      | [pattern] => pure pattern
      | patterns => pure (Pattern.oneOf patterns)
    if ← tryWord "as" then return .bound first (← readTargetName) else return first

def readAlternatives : Nat → Reader (List Pattern)
  | 0 => malformed
  | fuel + 1 => do
    let first ← readClosedPattern fuel
    if ← tryOp "|" then return first :: (← readAlternatives fuel) else return [first]

/-- A pattern that no operator divides. -/
def readClosedPattern : Nat → Reader Pattern
  | 0 => malformed
  | fuel + 1 => do
    match ← readLiteral? fuel with
    | some e => return literalPattern e
    | none =>
      match ← peek with
      | .op "(" =>
        advance
        if ← tryOp ")" then return .sequence []
        else
          let pattern ← readPatterns fuel
          expectOp ")"
          return pattern
      | .op "[" =>
        advance
        let items ← readPatternItems fuel
        expectOp "]"
        return .sequence items
      | .op "\x7b" =>
        advance
        let (entries, rest) ← readPatternEntries fuel
        return .mapping entries rest
      | _ =>
        let name ← identifier
        if name == "_" then return .capture none
        else
          let e ← readAttributes fuel (.name name)
          if ← tryOp "(" then return .instanceOf e (← readFieldPatterns fuel false)
          else
            match e with
            | .name _ => return .capture (some name)
            | _ => return .value e

def readPatternEntries : Nat → Reader (List (Expr × Pattern) × Option String)
  | 0 => malformed
  | fuel + 1 => do
    if ← tryOp "\x7d" then return ([], none)
    else if ← tryOp "**" then
      let name ← readTargetName
      let _ ← tryOp ","
      expectOp "\x7d"
      return ([], some name)
    else
      let key ← readKey fuel
      expectOp ":"
      let pattern ← readPattern fuel
      if ← tryOp "," then
        let (entries, rest) ← readPatternEntries fuel
        return ((key, pattern) :: entries, rest)
      else
        expectOp "\x7d"
        return ([(key, pattern)], none)

/--
The fields of an instance with the closing bracket; `named` tells that one by
name was read.
-/
def readFieldPatterns : Nat → Bool → Reader (List (Option String × Pattern))
  | 0, _ => malformed
  | fuel + 1, named => do
    if ← tryOp ")" then return []
    else
      let named := named || (← peekSecond) == .op "="
      let name ←
        if named then do
          let name ← identifier
          expectOp "="
          pure (some name)
        else pure none
      let pattern ← readPattern fuel
      if ← tryOp "," then return (name, pattern) :: (← readFieldPatterns fuel named)
      else
        expectOp ")"
        return [(name, pattern)]

end

end DocHints.Source
