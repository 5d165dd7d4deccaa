import DocHints.Text.Lines
import DocHints.Text.Word

/-!
# The lines of a marked-up text

A text is read line by line.  Tabs are widened, trailing blanks dropped, and
each line keeps its number, so that a block can tell where it began after its
margin is removed.  The marks that open a block are recognised on a single line.
-/

namespace DocHints.Rest

structure Line where
  number : Nat
  text : String
  deriving DecidableEq, Repr, Inhabited

namespace Line

def chars (line : Line) : List Char :=
  line.text.toList

def isVacant (line : Line) : Bool :=
  Text.isVacant line.text

def isIndented (line : Line) : Bool :=
  line.chars.head? == some ' '

/-- Whether the first `width` characters are blanks and there is at least one. -/
def isIndentedBy (width : Nat) (line : Line) : Bool :=
  line.isIndented && (line.chars.take width).all Text.isBlank

def dropStart (width : Nat) (line : Line) : Line :=
  { line with text := Text.dropChars width line.text }

end Line

def expandTabs : Nat → List Char → List Char
  | _, [] => []
  | column, '\t' :: rest =>
    let width := 8 - column % 8
    List.replicate width ' ' ++ expandTabs (column + width) rest
  | column, c :: rest => c :: expandTabs (column + 1) rest

def blankOut (c : Char) : Char :=
  if c == '\x0b' || c == '\x0c' then ' ' else c

def linesOf (text : String) : List Line :=
  let bare := String.ofList (text.toList.map blankOut)
  (Text.splitLines bare).mapIdx fun index line =>
    ⟨index + 1, Text.trimEnd (String.ofList (expandTabs 0 line.toList))⟩

/-! ## Stretches of lines -/

/-- The leading lines that are vacant or pass the test, and the others. -/
def stretch (keeps : Line → Bool) (lines : List Line) : List Line × List Line :=
  lines.span fun line => line.isVacant || keeps line

/--
A stretch is finished if a vacant line or the end of the text follows its
content.
-/
def isFinished (block rest : List Line) : Bool :=
  rest.isEmpty || match block.getLast? with
    | some line => line.isVacant
    | none => false

def marginOf (lines : List Line) : Nat :=
  match (lines.filter fun line => !line.isVacant).map fun line =>
    Text.indent line.text with
  | [] => 0
  | first :: rest => rest.foldl min first

def dropMargin (lines : List Line) : List Line :=
  lines.map (Line.dropStart (marginOf lines))

def trimVacant (lines : List Line) : List Line :=
  ((lines.dropWhile Line.isVacant).reverse.dropWhile Line.isVacant).reverse

def lastNumber (lines : List Line) (default : Nat) : Nat :=
  match lines.getLast? with
  | some line => line.number
  | none => default

/-! ## Marks -/

/--
How many spaces separate a mark from what follows it; no space is needed at the
end.
-/
def gap? : List Char → Option Nat
  | [] => some 0
  | ' ' :: rest => some (1 + (rest.takeWhile (· == ' ')).length)
  | _ => none

def mark? (mark : String) (chars : List Char) : Option Nat := do
  let rest ← Text.dropStart? mark.toList chars
  let width ← gap? rest
  return mark.length + width

def isPunctuation (c : Char) : Bool :=
  let code := c.toNat
  (0x21 ≤ code && code ≤ 0x2F) || (0x3A ≤ code && code ≤ 0x40)
    || (0x5B ≤ code && code ≤ 0x60)
    || (0x7B ≤ code && code ≤ 0x7E)

/-- A ruler repeats one mark of punctuation. -/
def ruler? (chars : List Char) : Option Char :=
  match chars with
  | [] => none
  | c :: rest =>
    if isPunctuation c && (Text.dropEndWhile (· == ' ') rest).all (· == c) then some c
    else none

def isBulletMark (c : Char) : Bool :=
  ['-', '+', '*', '•', '‣', '⁃'].contains c

def bullet? (chars : List Char) : Option (Char × Nat) :=
  match chars with
  | [] => none
  | c :: rest =>
    if isBulletMark c then (gap? rest).map fun width => (c, 1 + width) else none

/--
Reads the name of a field up to the colon that closes it; `last` is the
character before.
-/
def fieldName? : Char → List Char → Option (List Char × List Char)
  | _, [] => none
  | _, ['\\'] => none
  | _, '\\' :: c :: rest =>
    (fieldName? c rest).map fun read => ('\\' :: c :: read.1, read.2)
  | last, ':' :: rest =>
    match rest with
    | [] => if last == ' ' then none else some ([], [])
    | ' ' :: _ => if last == ' ' then none else some ([], rest)
    | '\x60' :: _ => none
    | _ => (fieldName? ':' rest).map fun read => (':' :: read.1, read.2)
  | _, c :: rest => (fieldName? c rest).map fun read => (c :: read.1, read.2)

def field? (chars : List Char) : Option (List Char × Nat) :=
  match chars with
  | ':' :: c :: rest =>
    if c == ':' || c == ' ' then none
    else do
      let (name, after) ← fieldName? ':' (c :: rest)
      let width ← gap? after
      return (name, name.length + 2 + width)
  | _ => none

/-! ### Enumerators -/

inductive EnumStyle where
  | parens
  | closing
  | period
  deriving DecidableEq, Repr

inductive Sequence where
  | auto
  | arabic
  | lowerAlpha
  | upperAlpha
  | lowerRoman
  | upperRoman
  deriving DecidableEq, Repr

structure Enumerator where
  style : EnumStyle
  label : List Char
  width : Nat
  deriving Repr

def isLowerRoman (c : Char) : Bool :=
  "ivxlcdm".toList.contains c

def isUpperRoman (c : Char) : Bool :=
  "IVXLCDM".toList.contains c

def Sequence.matchesLabel (label : List Char) : Sequence → Bool
  | .auto => label == ['#']
  | .arabic => !label.isEmpty && label.all Char.isDigit
  | .lowerAlpha => label.length == 1 && label.all Char.isLower
  | .upperAlpha => label.length == 1 && label.all Char.isUpper
  | .lowerRoman => !label.isEmpty && label.all isLowerRoman
  | .upperRoman => !label.isEmpty && label.all isUpperRoman

def Sequence.all : List Sequence :=
  [.auto, .arabic, .lowerAlpha, .upperAlpha, .lowerRoman, .upperRoman]

/--
The sequence a label belongs to where none is expected: `i` and `I` open roman
numbering.
-/
def Sequence.ofLabel? (label : List Char) : Option Sequence :=
  if label == ['i'] then some .lowerRoman
  else if label == ['I'] then some .upperRoman
  else Sequence.all.find? (·.matchesLabel label)

def Sequence.expecting (expected : Sequence) (label : List Char) : Option Sequence :=
  if label == ['#'] then some .auto
  else if expected.matchesLabel label then some expected
  else Sequence.ofLabel? label

def enumerator? (chars : List Char) : Option Enumerator :=
  match chars with
  | '(' :: rest => do
    let label := rest.takeWhile fun c => c.isAlphanum || c == '#'
    let _ ← Sequence.ofLabel? label
    let after ← Text.dropStart? [')'] (rest.drop label.length)
    let width ← gap? after
    return ⟨.parens, label, label.length + 2 + width⟩
  | _ => do
    let label := chars.takeWhile fun c => c.isAlphanum || c == '#'
    let _ ← Sequence.ofLabel? label
    match chars.drop label.length with
    | ')' :: after => return ⟨.closing, label, label.length + 1 + (← gap? after)⟩
    | '.' :: after => return ⟨.period, label, label.length + 1 + (← gap? after)⟩
    | _ => none

def romanDigits : List (Nat × String) :=
  [(1000, "M"), (900, "CM"), (500, "D"), (400, "CD"), (100, "C"), (90, "XC"), (50, "L"),
   (40, "XL"), (10, "X"), (9, "IX"), (5, "V"), (4, "IV"), (1, "I")]

def romanFrom : List (Nat × String) → Nat → String
  | [], _ => ""
  | (value, digit) :: rest, n =>
    if value = 0 then romanFrom rest n
    else Text.join "" (List.replicate (n / value) digit) ++ romanFrom rest (n % value)

def roman? (n : Nat) : Option String :=
  if 0 < n && n < 5000 then some (romanFrom romanDigits n) else none

def romanDigit (c : Char) : Nat :=
  match c with
  | 'M' => 1000
  | 'D' => 500
  | 'C' => 100
  | 'L' => 50
  | 'X' => 10
  | 'V' => 5
  | 'I' => 1
  | _ => 0

/-- A digit before a greater one is taken away. -/
def romanSum : List Char → Int
  | [] => 0
  | [c] => romanDigit c
  | c :: d :: rest =>
    (if romanDigit c < romanDigit d then -(romanDigit c : Int) else romanDigit c)
      + romanSum (d :: rest)

def ofRoman? (digits : List Char) : Option Nat :=
  let n := (romanSum digits).toNat
  if roman? n == some (String.ofList digits) then some n else none

def Sequence.ordinal? (label : List Char) : Sequence → Option Nat
  | .auto => some 1
  | .arabic => some (label.foldl (fun n c => 10 * n + (c.toNat - '0'.toNat)) 0)
  | .lowerAlpha => label.head?.map fun c => c.toNat - 'a'.toNat + 1
  | .upperAlpha => label.head?.map fun c => c.toNat - 'A'.toNat + 1
  | .lowerRoman => ofRoman? (label.map Char.toUpper)
  | .upperRoman => ofRoman? label

def Sequence.label? (ordinal : Nat) : Sequence → Option String
  | .auto => some "#"
  | .arabic => some (toString ordinal)
  | .lowerAlpha =>
    if ordinal ≤ 26 then some (String.singleton (Char.ofNat ('a'.toNat + ordinal - 1)))
    else none
  | .upperAlpha =>
    if ordinal ≤ 26 then some (String.singleton (Char.ofNat ('A'.toNat + ordinal - 1)))
    else none
  | .lowerRoman => (roman? ordinal).map String.toLower
  | .upperRoman => roman? ordinal

def EnumStyle.around (label : String) : EnumStyle → String
  | .parens => "(" ++ label ++ ") "
  | .closing => label ++ ") "
  | .period => label ++ ". "

/--
Whether the line after an item lets it stand as an item: vacant, indented or the
next item.
-/
def continuesList (style : EnumStyle) (sequence : Sequence) (ordinal : Nat) :
    List Line → Bool
  | [] => true
  | next :: _ =>
    match next.chars with
    | [] => true
    | c :: _ =>
      Text.isBlank c || match sequence.label? (ordinal + 1) with
        | some label =>
          Text.startsWith (style.around label) next.text
            || Text.startsWith (style.around "#") next.text
        | none => false

/-! ### Options of a command -/

def isOptionChar (c : Char) : Bool :=
  c.isAlphanum || c == '_' || c == '-'

/-- The rest after the argument of an option: a name, or any text in angle brackets. -/
def optionArgument? (chars : List Char) : Option (List Char) :=
  match chars with
  | '<' :: rest =>
    let inner := rest.takeWhile fun c => c != '<' && c != '>'
    match rest.drop inner.length with
    | '>' :: after => if inner.isEmpty then none else some after
    | _ => none
  | c :: rest => if c.isAlpha then some (rest.dropWhile isOptionChar) else none
  | [] => none

def optionRests (chars : List Char) : List (List Char) :=
  let short (rest : List Char) : List (List Char) :=
    match rest with
    | c :: after =>
      if c.isAlphanum then
        let spaced := match after with
          | ' ' :: more => (optionArgument? more).toList
          | _ => []
        spaced ++ (optionArgument? after).toList ++ [after]
      else []
    | [] => []
  let long (rest : List Char) : List (List Char) :=
    match rest with
    | c :: more =>
      if c.isAlphanum then
        let after := more.dropWhile isOptionChar
        let argued := match after with
          | ' ' :: value => (optionArgument? value).toList
          | '=' :: value => (optionArgument? value).toList
          | _ => []
        argued ++ [after]
      else []
    | [] => []
  match chars with
  | '-' :: '-' :: rest => long rest
  | '/' :: rest => long rest
  | '-' :: rest => short rest
  | '+' :: rest => short rest
  | _ => []

def afterOptions : Nat → List Char → Option (List Char)
  | 0, _ => none
  | fuel + 1, chars =>
    (optionRests chars).findSome? fun rest =>
      match rest with
      | ',' :: ' ' :: more => afterOptions fuel more
      | [] => some []
      | [' '] => some []
      | ' ' :: ' ' :: more => some (more.dropWhile (· == ' '))
      | _ => none

/--
The width of the options that a line opens with, two spaces before their
description.
-/
def option? (chars : List Char) : Option Nat :=
  (afterOptions (chars.length + 1) chars).map fun rest => chars.length - rest.length

/-! ### Tables and explicit marks -/

/-- A row of plus signs and dashes opens a table with drawn borders. -/
def isGridTop (chars : List Char) : Bool :=
  match Text.dropEndWhile (· == ' ') chars with
  | '+' :: '-' :: rest =>
    match rest.reverse with
    | '+' :: '-' :: inner => !inner.isEmpty && inner.all fun c => c == '-' || c == '+'
    | _ => false
  | _ => false

/-- Two or more stretches of equals signs open a table with ruled columns. -/
def isSimpleTop (chars : List Char) : Bool :=
  chars.head? == some '=' && chars.all (fun c => c == '=' || c == ' ')
    && (Text.dropEndWhile (· == ' ') chars).contains ' '

def simpleName : List Char → Bool → List Char × List Char
  | [], _ => ([], [])
  | c :: rest, started =>
    if Text.isAlnum c then
      let (name, after) := simpleName rest true
      (c :: name, after)
    else if started && ['-', '.', '_', '+', ':'].contains c
        && (match rest with | d :: _ => Text.isAlnum d | [] => false) then
      let (name, after) := simpleName rest false
      (c :: name, after)
    else ([], c :: rest)

inductive Explicit where
  | footnote (width : Nat)
  | target
  | substitution
  | directive (name : String) (width : Nat)
  | comment (width : Nat)
  deriving Repr

def explicitDirective? (width : Nat) (chars : List Char) : Option Explicit :=
  let (name, after) := simpleName chars false
  if name.isEmpty then none
  else
    let space := if after.head? == some ' ' then 1 else 0
    match after.drop space with
    | ':' :: ':' :: rest =>
      (gap? rest).map fun more =>
        .directive (String.ofList name) (width + name.length + space + 2 + more)
    | _ => none

def explicitFootnote? (width : Nat) (chars : List Char) : Option Explicit := do
  let inner ← Text.dropStart? ['['] chars
  let (name, after) := match inner with
    | '*' :: rest => (['*'], rest)
    | '#' :: rest =>
      let (name, after) := simpleName rest false
      ('#' :: name, after)
    | _ => simpleName inner false
  if name.isEmpty then none
  let rest ← Text.dropStart? [']'] after
  let more ← gap? rest
  return .footnote (width + name.length + 2 + more)

def explicit? (chars : List Char) : Option Explicit := do
  let width ← mark? ".." chars
  let rest := chars.drop width
  let opens (mark : Char) : Bool :=
    match rest with
    | c :: d :: _ => c == mark && d != ' '
    | _ => false
  if 2 < width then
    match explicitFootnote? width rest with
    | some found => return found
    | none =>
      if opens '_' then return .target
      else if opens '|' then return .substitution
      else match explicitDirective? width rest with
        | some found => return found
        | none => return .comment width
  else return .comment width

def isPlain (line : Line) : Bool :=
  let chars := line.chars
  !line.isVacant && !line.isIndented && (bullet? chars).isNone
    && (enumerator? chars).isNone
    && (field? chars).isNone && (option? chars).isNone && (mark? ">>>" chars).isNone
    && (mark? "|" chars).isNone && !isGridTop chars && !isSimpleTop chars
    && (mark? ".." chars).isNone && (mark? "__" chars).isNone && (ruler? chars).isNone

end DocHints.Rest
