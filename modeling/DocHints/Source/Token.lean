import DocHints.Decimal.Read
import DocHints.Failure
import DocHints.Text.Word

/-!
# Tokens

A source text as a list of tokens.  Lines are joined inside brackets and after a
backslash, and the indentation of a logical line shows as tokens that open and
close blocks.  A comment that gives a type is a token of its own where the
reader asks for such comments, and is skipped like any other comment where it
does not.  Where the text cannot be divided any further, the list ends with a
token that stands for the fault.
-/

namespace DocHints.Source

open Decimal (Binary)

inductive Lexeme where
  | name (text : String)
  | int (n : Nat)
  | float (x : Binary)
  | imaginary (x : Binary)
  | str (content : String) (marked : Bool)
  | bytes (content : List UInt8)
  /-- A text with embedded expressions, kept as written. -/
  | template (written : String)
  | op (text : String)
  | newline
  | indent
  | dedent
  | typeComment (text : String)
  | finish
  /-- The place from which on the text cannot be divided. -/
  | fault
  deriving DecidableEq, Repr, Inhabited

structure Token where
  lexeme : Lexeme
  line : Nat
  endLine : Nat
  deriving DecidableEq, Repr, Inhabited

/-! ## Numbers -/

def hexValue (c : Char) : Nat :=
  if c.isDigit then c.toNat - '0'.toNat
  else if 'a' ≤ c && c ≤ 'f' then c.toNat - 'a'.toNat + 10
  else c.toNat - 'A'.toNat + 10

def isHex (c : Char) : Bool :=
  c.isDigit || ('a' ≤ c && c ≤ 'f') || ('A' ≤ c && c ≤ 'F')

/--
Whether a number may end here: a word may follow it only if it opens with an
operator's name.
-/
def endsNumber (rest : List Char) : Bool :=
  match rest with
  | c :: _ =>
    !Text.isWord c
      || ["and", "else", "for", "if", "in", "is", "not", "or"].any fun word =>
        (Text.dropStart? word.toList rest).isSome
  | [] => true

def readBased? (base : Nat) (allowed : Char → Bool) (chars : List Char) :
    Option (Lexeme × List Char) :=
  let run := chars.takeWhile fun c => allowed c || c == '_'
  let rest := chars.drop run.length
  let digits := run.filter (· != '_')
  if digits.isEmpty || !Decimal.wellSpaced run || !endsNumber rest then none
  else some (.int (Decimal.ofDigits base hexValue digits), rest)

/-- A decimal integer, or a number with a point, a power of ten or an imaginary unit. -/
def readDecimal? (chars : List Char) : Option (Lexeme × List Char) :=
  let (whole, afterWhole) := Decimal.readDigits chars
  let (hasPoint, fraction, afterFraction) :=
    match afterWhole with
    | '.' :: more => let (digits, rest) := Decimal.readDigits more; (true, digits, rest)
    | _ => (false, [], afterWhole)
  let (hasPower, power, rest) :=
    match afterFraction with
    | e :: _ =>
      if e == 'e' || e == 'E' then
        match Decimal.readExponent afterFraction with
        | some (power, rest) => (true, power, rest)
        | none => (false, 0, afterFraction)
      else (false, 0, afterFraction)
    | [] => (false, 0, [])
  if whole.isEmpty && fraction.isEmpty then none
  else
    let digits := Decimal.ofDigits 10 Decimal.digitValue (whole ++ fraction)
    let value := Binary.ofDecimal false digits (power - fraction.length)
    let real : Option (Lexeme × List Char) :=
      if !endsNumber rest then none
      else if hasPoint || hasPower then some (.float value, rest)
      else if whole.head? == some '0' && digits != 0 then none
      else some (.int digits, rest)
    match rest with
    | c :: more => if c == 'j' || c == 'J' then some (.imaginary value, more) else real
    | [] => real

def readNumber? (chars : List Char) : Option (Lexeme × List Char) :=
  match chars with
  | '0' :: letter :: rest =>
    let body := match rest with | '_' :: more => more | _ => rest
    if letter == 'x' || letter == 'X' then readBased? 16 isHex body
    else if letter == 'o' || letter == 'O' then
      readBased? 8 (fun c => '0' ≤ c && c ≤ '7') body
    else if letter == 'b' || letter == 'B' then
      readBased? 2 (fun c => c == '0' || c == '1') body
    else readDecimal? chars
  | _ => readDecimal? chars

/-! ## Quoted text -/

structure QuoteKind where
  raw : Bool
  bytes : Bool
  template : Bool
  marked : Bool
  deriving DecidableEq, Repr

def QuoteKind.ofLetters? (letters : List Char) : Option QuoteKind :=
  match String.ofList (letters.map Char.toLower) with
  | "" => some ⟨false, false, false, false⟩
  | "r" => some ⟨true, false, false, false⟩
  | "u" => some ⟨false, false, false, letters == ['u']⟩
  | "b" => some ⟨false, true, false, false⟩
  | "br" => some ⟨true, true, false, false⟩
  | "rb" => some ⟨true, true, false, false⟩
  | "f" => some ⟨false, false, true, false⟩
  | "fr" => some ⟨true, false, true, false⟩
  | "rf" => some ⟨true, false, true, false⟩
  | _ => none

/--
The raw content up to the closing quote and what follows it.  A backslash takes
the next character with it; a text in single quotes does not reach over a line.
-/
def readQuoted? (close : List Char) (long : Bool) :
    List Char → Option (List Char × List Char)
  | [] => none
  | '\\' :: c :: rest =>
    match readQuoted? close long rest with
    | some (content, after) => some ('\\' :: c :: content, after)
    | none => none
  | c :: rest =>
    match Text.dropStart? close (c :: rest) with
    | some after => some ([], after)
    | none =>
      if c == '\n' && !long then none
      else
        match readQuoted? close long rest with
        | some (content, after) => some (c :: content, after)
        | none => none

def hexRun? (count : Nat) (chars : List Char) : Option (Nat × List Char) :=
  let run := chars.take count
  if run.length = count && run.all isHex then
    some (Decimal.ofDigits 16 hexValue run, chars.drop count)
  else none

def simpleEscape? : Char → Option (List Char)
  | '\n' => some []
  | '\\' => some ['\\']
  | '\'' => some ['\'']
  | '"' => some ['"']
  | 'a' => some ['\x07']
  | 'b' => some ['\x08']
  | 'f' => some ['\x0c']
  | 'n' => some ['\n']
  | 'r' => some ['\r']
  | 't' => some ['\t']
  | 'v' => some ['\x0b']
  | _ => none

/--
Resolves the escapes of a text; `none` for an escape that is cut short.  The
fuel bounds the number of steps, each of which takes at least one character.
-/
def resolveEscapes? (bytes : Bool) : Nat → List Char → Option (List Char)
  | 0, _ => some []
  | _, [] => some []
  | fuel + 1, '\\' :: c :: rest =>
    match simpleEscape? c with
    | some chars => (resolveEscapes? bytes fuel rest).map (chars ++ ·)
    | none =>
      if '0' ≤ c && c ≤ '7' then
        let run := (c :: rest.take 2).takeWhile fun d => '0' ≤ d && d ≤ '7'
        let code := Decimal.ofDigits 8 hexValue run
        (resolveEscapes? bytes fuel (rest.drop (run.length - 1))).map
          (Char.ofNat code :: ·)
      else if c == 'x' then
        match hexRun? 2 rest with
        | some (code, after) =>
          (resolveEscapes? bytes fuel after).map (Char.ofNat code :: ·)
        | none => none
      else if c == 'u' && !bytes then
        match hexRun? 4 rest with
        | some (code, after) =>
          (resolveEscapes? bytes fuel after).map (Char.ofNat code :: ·)
        | none => none
      else if c == 'U' && !bytes then
        match hexRun? 8 rest with
        | some (code, after) =>
          if code < 0x110000 then
            (resolveEscapes? bytes fuel after).map (Char.ofNat code :: ·)
          else none
        | none => none
      else (resolveEscapes? bytes fuel rest).map ('\\' :: c :: ·)
  | fuel + 1, c :: rest => (resolveEscapes? bytes fuel rest).map (c :: ·)

/-- Reads a quoted text whose letters have been read; gives the lexeme and the rest. -/
def readText? (letters : List Char) (kind : QuoteKind) (chars : List Char) :
    Option (Lexeme × List Char) :=
  let opening : Option (List Char × Bool × List Char) :=
    match chars with
    | '"' :: '"' :: '"' :: rest => some (['"', '"', '"'], true, rest)
    | '\'' :: '\'' :: '\'' :: rest => some (['\'', '\'', '\''], true, rest)
    | '"' :: rest => some (['"'], false, rest)
    | '\'' :: rest => some (['\''], false, rest)
    | _ => none
  match opening with
  | none => none
  | some (close, long, rest) =>
    match readQuoted? close long rest with
    | none => none
    | some (content, after) =>
      if kind.template then
        some (.template (String.ofList (letters ++ close ++ content ++ close)), after)
      else
        let resolved :=
          if kind.raw then some content
          else resolveEscapes? kind.bytes content.length content
        match resolved with
        | none => none
        | some chars =>
          if kind.bytes then
            if content.all (fun c => c.toNat < 128) then
              some (.bytes (chars.map fun c => UInt8.ofNat c.toNat), after)
            else none
          else some (.str (String.ofList chars) kind.marked, after)

/-! ## Operators -/

def longOperators : List String :=
  ["**=", "//=", ">>=", "<<=", "...", "!=", "->", ":=", "**", "//", ">>", "<<",
   "<=", ">=", "==", "+=", "-=", "*=", "/=", "%=", "&=", "|=", "^=", "@="]

/-- The marks of one character; the last four belong to no operator and fit nowhere. -/
def shortOperators : List Char :=
  ['(', ')', '[', ']', '{', '}', ':', ',', ';', '+', '-', '*', '/', '|', '&', '<',
   '>', '=', '.', '%', '~', '^', '@', '!', '?', '$', '\x60']

def readOperator? (chars : List Char) : Option (String × List Char) :=
  match longOperators.findSome? fun op =>
    (Text.dropStart? op.toList chars).map (op, ·) with
  | some found => some found
  | none =>
    match chars with
    | c :: rest =>
      if shortOperators.contains c then some (String.ofList [c], rest) else none
    | [] => none

def closerOf? : String → Option String
  | "(" => some ")"
  | "[" => some "]"
  | "\x7b" => some "\x7d"
  | _ => none

def isCloser (op : String) : Bool :=
  op == ")" || op == "]" || op == "\x7d"

/-! ## Comments that give a type -/

def isSpacing (c : Char) : Bool :=
  c == ' ' || c == '\t'

/--
Matches the opening of a comment, in which every space may be any number of
spaces and tabs.
-/
def matchLoosely : List Char → List Char → Option (List Char)
  | [], rest => some rest
  | m :: mark, rest =>
    if m == ' ' then matchLoosely mark (rest.dropWhile isSpacing)
    else
      match rest with
      | c :: more => if m == c then matchLoosely mark more else none
      | [] => none

inductive Comment where
  | plain
  | ignored
  | type (text : String)
  deriving DecidableEq, Repr

/-- A type comment that opens with the word `ignore` asks for nothing. -/
def Comment.ofChars (chars : List Char) : Comment :=
  match matchLoosely "# type: ".toList chars with
  | none => .plain
  | some body =>
    match Text.dropStart? "ignore".toList body with
    | some [] => .ignored
    | some (c :: _) =>
      if c.toNat < 128 && !c.isAlphanum then .ignored else .type (String.ofList body)
    | none => .type (String.ofList body)

/-! ## The token list -/

/--
An indentation, in which a tab reaches to the next multiple of eight or counts
as one blank.
-/
structure Indent where
  width : Nat
  blanks : Nat
  deriving DecidableEq, Repr, Inhabited

/--
What has been read: `closers` are the brackets that still have to be closed,
innermost first, and `indents` the indentations of the open blocks.  A line that
starts with nothing but a backslash gives its width to the next one, which is
`kept`; zero is none.  `tokens` is reversed.
-/
structure Reading where
  rest : List Char
  line : Nat
  closers : List String
  indents : List Indent
  lineStart : Bool
  kept : Nat
  hasContent : Bool
  tokens : List Token
  deriving Inhabited

namespace Reading

def push (r : Reading) (lexeme : Lexeme) (endLine : Nat) : Reading :=
  { r with tokens := ⟨lexeme, r.line, endLine⟩ :: r.tokens, line := endLine }

def pushContent (r : Reading) (lexeme : Lexeme) (rest : List Char) (breaks : Nat) :
    Reading :=
  { r.push lexeme (r.line + breaks) with rest := rest, hasContent := true }

def skipTo (r : Reading) (rest : List Char) : Reading :=
  { r with rest := rest }

def endLine (r : Reading) (rest : List Char) : Reading :=
  let r := if r.hasContent then r.push .newline r.line else r
  { r with rest := rest, line := r.line + 1, lineStart := true, hasContent := false }

/--
Closes the blocks that are deeper than an indentation; an open block must have
just that one.
-/
def closeBlocks (r : Reading) (indent : Indent) : Except Failure Reading :=
  let closed := r.indents.takeWhile (indent.width < ·.width)
  let left := r.indents.drop closed.length
  match left with
  | current :: _ =>
    if current.width != indent.width then
      .error (.badIndentation "unindent does not match any outer indentation level")
    else if current.blanks != indent.blanks then .error .mixedTabs
    else
      let dedents := closed.map fun _ => (⟨.dedent, r.line, r.line⟩ : Token)
      .ok { r with indents := left, tokens := dedents ++ r.tokens, lineStart := false }
  | [] => .error (.badIndentation "unindent does not match any outer indentation level")

def openBlock (r : Reading) (indent : Indent) : Reading :=
  let opened := { r with indents := indent :: r.indents, lineStart := false }
  opened.push .indent r.line

end Reading

/-- The indentation of a line, and what follows it; a form feed starts it anew. -/
def readIndent : List Char → Indent → Indent × List Char
  | ' ' :: rest, indent => readIndent rest ⟨indent.width + 1, indent.blanks + 1⟩
  | '\t' :: rest, indent =>
    readIndent rest ⟨(indent.width / 8 + 1) * 8, indent.blanks + 1⟩
  | '\x0c' :: rest, _ => readIndent rest ⟨0, 0⟩
  | rest, indent => (indent, rest)

def countBreaks (before after : List Char) : Nat :=
  (before.take (before.length - after.length)).count '\n'

def Reading.takeComment (typed : Bool) (r : Reading) : Reading :=
  let comment := r.rest.takeWhile (· != '\n')
  let after := r.rest.drop comment.length
  if typed then
    match Comment.ofChars comment with
    | .type text => r.pushContent (.typeComment text) after 0
    | _ => r.skipTo after
  else r.skipTo after

/-- A backslash joins its line to the next one and must be the last character on it. -/
def brokenContinuation : Failure :=
  .malformed "unexpected character after line continuation character"

def Reading.startLine (typed : Bool) (r : Reading) : Except Failure Reading :=
  let (indent, rest) := readIndent r.rest ⟨0, 0⟩
  match rest with
  | [] => .ok { r with rest := [], lineStart := false }
  | '\n' :: more => .ok { r with rest := more, line := r.line + 1, kept := 0 }
  | '\\' :: '\n' :: next :: more =>
    let kept := if r.kept == 0 then indent.width else r.kept
    .ok { r with rest := next :: more, line := r.line + 1, kept := kept }
  | '\\' :: _ => .error brokenContinuation
  | '#' :: _ =>
    let taken := ({ r with rest := rest, kept := 0 } : Reading).takeComment typed
    .ok { taken with lineStart := !taken.hasContent }
  | _ =>
    let indent := if r.kept == 0 then indent else ⟨r.kept, r.kept⟩
    let r := { r with rest := rest, kept := 0 }
    match r.indents with
    | current :: _ =>
      if current.width < indent.width then
        if current.blanks < indent.blanks then .ok (r.openBlock indent)
        else .error .mixedTabs
      else r.closeBlocks indent
    | [] => r.closeBlocks indent

def Reading.advance (typed : Bool) (r : Reading) : Except Failure Reading :=
  match r.rest with
  | [] => .ok r
  | '\n' :: rest =>
    if r.closers.isEmpty then .ok (r.endLine rest)
    else .ok { r with rest := rest, line := r.line + 1 }
  | '\\' :: '\n' :: next :: rest =>
    .ok { r with rest := next :: rest, line := r.line + 1 }
  | '\\' :: _ => .error brokenContinuation
  | '#' :: _ => .ok (r.takeComment typed)
  | c :: rest =>
    if isSpacing c || c == '\x0c' then .ok (r.skipTo rest)
    else
      let letters := r.rest.takeWhile Text.isWord
      let after := r.rest.drop letters.length
      let quoted : Option (Except Failure (Lexeme × List Char)) :=
        match after with
        | q :: _ =>
          if q == '"' || q == '\'' then
            match QuoteKind.ofLetters? letters with
            | some kind =>
              match readText? letters kind after with
              | some found => some (.ok found)
              | none => some (.error (.malformed "unterminated string literal"))
            | none => none
          else none
        | [] => none
      match quoted with
      | some (.error failure) => .error failure
      | some (.ok (lexeme, rest)) =>
        .ok (r.pushContent lexeme rest (countBreaks r.rest rest))
      | none =>
        let startsNumber :=
          c.isDigit || (c == '.'
            && (match rest with | d :: _ => d.isDigit | [] => false))
        if startsNumber then
          match readNumber? r.rest with
          | some (lexeme, rest) => .ok (r.pushContent lexeme rest 0)
          | none => .error (.malformed "invalid decimal literal")
        else if Text.isWord c then
          .ok (r.pushContent (.name (String.ofList letters)) after 0)
        else
          match readOperator? r.rest with
          | none => .error (.malformed "invalid character")
          | some (op, rest) =>
            let pushed := r.pushContent (.op op) rest 0
            match closerOf? op with
            | some closer => .ok { pushed with closers := closer :: r.closers }
            | none =>
              if isCloser op then
                match r.closers with
                | closer :: outer =>
                  if closer == op then .ok { pushed with closers := outer }
                  else .error (.malformed "closing parenthesis does not match")
                | [] => .error (.malformed "unmatched closing parenthesis")
              else .ok pushed

structure Fault where
  failure : Failure
  /-- Whether the fault is only that the end came too early. -/
  atEnd : Bool := false
  deriving Inhabited, Repr

structure Scan where
  tokens : List Token
  fault : Option Fault := none
  deriving Inhabited, Repr

def Reading.stop (r : Reading) (fault : Fault) : Scan :=
  ⟨(⟨.fault, r.line, r.line⟩ :: r.tokens).reverse, some fault⟩

def Reading.close (r : Reading) : Scan :=
  if r.closers.isEmpty then
    let r := if r.hasContent then r.endLine [] else r
    let dedents :=
      (r.indents.filter (0 < ·.width)).map fun _ => (⟨.dedent, r.line, r.line⟩ : Token)
    ⟨(⟨.finish, r.line, r.line⟩ :: dedents ++ r.tokens).reverse, none⟩
  else r.stop ⟨.malformed "bracket was never closed", true⟩

/--
Every step takes a character or ends the start of a line, so the fuel is not
used up.
-/
def Reading.run (typed : Bool) : Nat → Reading → Scan
  | 0, r => r.stop ⟨.malformed "source is too long", false⟩
  | fuel + 1, r =>
    match r.rest with
    | [] => r.close
    | _ :: _ =>
      let next :=
        if r.lineStart && r.closers.isEmpty then r.startLine typed else r.advance typed
      match next with
      | .ok r => Reading.run typed fuel r
      | .error failure => r.stop ⟨failure, false⟩

def unifyLineEnds (s : String) : String :=
  Text.replaceAll "\r" "\n" (Text.replaceAll "\r\n" "\n" s)

/-- The tokens of a source; `typed` asks for comments that give a type. -/
def tokenize (typed : Bool) (source : String) : Scan :=
  let chars := (unifyLineEnds source).toList
  Reading.run typed (2 * chars.length + 2) ⟨chars, 1, [], [⟨0, 0⟩], true, 0, false, []⟩

end DocHints.Source
