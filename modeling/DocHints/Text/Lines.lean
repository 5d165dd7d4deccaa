import DocHints.Text.Cut

/-!
# Lines

A text as a list of lines and back, and the margin that lines share.
-/

namespace DocHints.Text

/--
The lines between line feeds; a text that ends in a line feed ends in an empty
line.
-/
def linesOf (s : String) : List String :=
  splitAll "\n" s

def unlines (lines : List String) : String :=
  join "\n" lines

def isLineEnd (c : Char) : Bool :=
  c == '\n' || c == '\x0b' || c == '\x0c' || c == '\r' || c == '\x1c' || c == '\x1d'
    || c == '\x1e'
    || c.toNat == 0x85 || c.toNat == 0x2028 || c.toNat == 0x2029

/--
Collects the line being read in reverse order; a carriage return takes a
following line feed.
-/
def splitLinesFrom : List Char → List Char → List (List Char)
  | [], line => if line.isEmpty then [] else [line.reverse]
  | '\r' :: '\n' :: rest, line => line.reverse :: splitLinesFrom rest []
  | c :: rest, line =>
    if isLineEnd c then line.reverse :: splitLinesFrom rest []
    else splitLinesFrom rest (c :: line)

/-- The lines of a text under every line end; a final line end opens no further line. -/
def splitLines (s : String) : List String :=
  (splitLinesFrom s.toList []).map String.ofList

def commonStart : List Char → List Char → List Char
  | a :: left, b :: right => if a = b then a :: commonStart left right else []
  | _, _ => []

def isMargin (c : Char) : Bool :=
  c == ' ' || c == '\t'

def marginOf (line : String) : List Char :=
  line.toList.takeWhile isMargin

/-- A line of spaces and tabs alone has no margin of its own and is emptied. -/
def emptyIfMarginOnly (line : String) : String :=
  if line.toList.all isMargin then "" else line

def sharedMargin (lines : List String) : List Char :=
  match (lines.filter fun line => !line.isEmpty).map marginOf with
  | [] => []
  | first :: rest => rest.foldl commonStart first

def dedent (s : String) : String :=
  let lines := (linesOf s).map emptyIfMarginOnly
  let margin := sharedMargin lines
  unlines (lines.map fun line =>
    match dropStart? margin line.toList with
    | some rest => String.ofList rest
    | none => line)

end DocHints.Text
