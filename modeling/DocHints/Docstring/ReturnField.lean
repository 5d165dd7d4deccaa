import DocHints.Docstring.Layout
import DocHints.Rest.Block

/-!
# The result of a function

Where the type of the result goes.  An existing field for it is replaced, a
description of the result is next, then the end of the first list of parameter
fields, then the place before the first block that is neither text nor fields,
and otherwise the end.
-/

namespace DocHints.Docstring

open Rest (Block)

structure ReturnPlace where
  index : Int
  foundParam : Bool
  foundReturn : Bool
  foundDirective : Bool
  deriving DecidableEq, Repr, Inhabited

def paramFieldMarks : List String :=
  ["param ", "parameter ", "arg ", "argument ", "keyword ", "kwarg ", "kwparam "]

def isParamField (name : String) : Bool :=
  paramFieldMarks.any fun mark => Text.startsWith mark name

/--
The index two lines before a block, or the end for a block whose line is not
known.
-/
def indexBefore (lines : Lines) (line : Option Nat) : Nat :=
  match line with
  | none => lines.length
  | some 0 => lines.length
  | some n => n - 2

def placeAfterParams? (lines : Lines) : List Block → Option ReturnPlace
  | [] => none
  | block :: rest =>
    if block.tag == "field_list" && block.fields.any isParamField then
      let line := match rest with
        | [] => none
        | next :: _ => next.line
      some ⟨indexBefore lines line, true, false, false⟩
    else placeAfterParams? lines rest

def isTextBlock (block : Block) : Bool :=
  block.tag == "literal_block" || block.tag == "paragraph" || block.tag == "field_list"

/-- The place before the first block of another kind, if an empty line stands there. -/
def placeBeforeBlock (lines : Lines) (blocks : List Block) :
    Except Failure ReturnPlace :=
  match blocks.find? fun block => !isTextBlock block with
  | none => .ok ⟨lines.length, false, false, false⟩
  | some block => do
    let index := indexBefore lines block.line
    if (← lineAt lines ((index : Int) - 1)).isEmpty then .ok ⟨index, false, false, true⟩
    else .ok ⟨lines.length, false, false, false⟩

/--
The place for the type of the result, and the lines without an existing field
for it.  The blocks of the text are asked for only where neither such a field
nor a description of the result exists.
-/
def returnPlace (blocksOf : Lines → Except Failure (List Block)) (lines : Lines) :
    Except Failure (Lines × ReturnPlace) :=
  match lines.findIdx? (Text.startsWith ":rtype:") with
  | some index => .ok (lines.eraseIdx index, ⟨index, false, true, false⟩)
  | none =>
    match lines.findIdx? isReturnLine with
    | some index => .ok (lines, ⟨index, false, true, false⟩)
    | none => do
      let blocks ← blocksOf lines
      match placeAfterParams? lines blocks with
      | some place => .ok (lines, place)
      | none => .ok (lines, ← placeBeforeBlock lines blocks)

/-- The part of a line from its first blank space on, or its last character. -/
def fromFirstSpace (line : String) : String :=
  let chars := line.toList
  let tail := chars.dropWhile (· != ' ')
  String.ofList (if tail.isEmpty then chars.drop (chars.length - 1) else tail)

def hasContentAt (lines : Lines) (position : Int) : Except Failure Bool := do
  return !Text.isVacant (← lineAt lines position)

/--
Where the type of the result goes: above content that follows the fields of
parameters, and parted by an empty line from content above it.
-/
def resultPlace (lines : Lines) (place : ReturnPlace) :
    Except Failure (Int × Bool) := do
  let onContent ←
    if place.foundParam && place.index < lines.length then
      hasContentAt lines place.index
    else pure false
  let index := if onContent then place.index - 1 else place.index
  let parted ←
    if 0 < index && index ≤ lines.length then hasContentAt lines (index - 1)
    else pure false
  return (index, parted)

/--
The lines with an empty line at an index, if they are to be parted there; the
index behind.
-/
def partAt (lines : Lines) (index : Int) (parted : Bool) : Lines × Int :=
  if parted then (insertLine lines index "", index + 1) else (lines, index)

def insertField (lines : Lines) (index : Int) (field : String) (followed : Bool) :
    Lines :=
  let lines := insertLine lines index field
  if followed then insertLine lines (index + 1) "" else lines

def injectReturn (lines : Lines) (type : String) (place : ReturnPlace)
    (ownField : Bool) : Except Failure Lines := do
  let described ←
    if !ownField && place.foundReturn then
      pure (Text.contains " -- " (← lineAt lines place.index))
    else pure false
  if described then return lines
  let (index, parted) ← resultPlace lines place
  let (lines, index) := partAt lines index parted
  if ownField || !place.foundReturn then
    return insertField lines index (":rtype: " ++ type) place.foundDirective
  else
    let line ← lineAt lines index
    setLine lines index (":return: " ++ type ++ " --" ++ fromFirstSpace line)

end DocHints.Docstring
