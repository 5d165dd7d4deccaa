import DocHints.Source.Token
import DocHints.Source.Tree

/-!
# Reading trees from tokens

The state of a reader is the list of tokens that are left and the line on which
the last token that was taken ends.  A reader either gives a tree or fails, and
both tell the state in which they end.
-/

namespace DocHints.Source

structure Cursor where
  tokens : List Token
  lastLine : Nat
  deriving Inhabited

abbrev Reader := ExceptT Failure (StateM Cursor)

namespace Reader

def peek : Reader Lexeme := do
  match (← get).tokens with
  | token :: _ => return token.lexeme
  | [] => return .finish

/--
Fails at the next token; where that is a change of indentation, the indentation
is at fault.
-/
def malformed {α : Type} : Reader α := do
  match ← peek with
  | .indent => throw (.badIndentation "unexpected indent")
  | .dedent => throw (.badIndentation "unexpected unindent")
  | _ => throw (.malformed "invalid syntax")

def peekSecond : Reader Lexeme := do
  match (← get).tokens with
  | _ :: token :: _ => return token.lexeme
  | _ => return .finish

def peekLine : Reader Nat := do
  match (← get).tokens with
  | token :: _ => return token.line
  | [] => return (← get).lastLine

def advance : Reader Unit :=
  modify fun cursor =>
    match cursor.tokens with
    | token :: rest =>
      let line := if token.lexeme == .dedent then cursor.lastLine else token.endLine
      ⟨rest, line⟩
    | [] => cursor

def atOp (text : String) : Reader Bool := do
  return (← peek) == .op text

def atWord (word : String) : Reader Bool := do
  return (← peek) == .name word

def tryOp (text : String) : Reader Bool := do
  if ← atOp text then
    advance
    return true
  else return false

def tryWord (word : String) : Reader Bool := do
  if ← atWord word then
    advance
    return true
  else return false

def expectOp (text : String) : Reader Unit := do
  if !(← tryOp text) then malformed

def expectWord (word : String) : Reader Unit := do
  if !(← tryWord word) then malformed

end Reader

def reserved : List String :=
  ["False", "None", "True", "and", "as", "assert", "async", "await", "break",
   "class", "continue", "def", "del", "elif", "else", "except", "finally", "for",
   "from", "global", "if", "import", "in", "is", "lambda", "nonlocal", "not", "or",
   "pass", "raise", "return", "try", "while", "with", "yield"]

def Reader.identifier : Reader String := do
  match ← Reader.peek with
  | .name text =>
    if reserved.contains text then Reader.malformed
    else
      Reader.advance
      return text
  | _ => Reader.malformed

end DocHints.Source
