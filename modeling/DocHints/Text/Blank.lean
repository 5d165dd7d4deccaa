/-!
# Blanks

The characters that pad a line and stand between its words, and the operations
that drop them.  Blanks are the Unicode spaces together with the control
characters that end a line or a field, so a no-break space pads a line as well
as a plain one does.
-/

namespace DocHints.Text

def blankRanges : List (Nat × Nat) :=
  [(0x09, 0x0D), (0x1C, 0x20), (0x85, 0x85), (0xA0, 0xA0), (0x1680, 0x1680),
   (0x2000, 0x200A), (0x2028, 0x2029), (0x202F, 0x202F), (0x205F, 0x205F),
   (0x3000, 0x3000)]

def inRanges (ranges : List (Nat × Nat)) (code : Nat) : Bool :=
  ranges.any fun range => range.1 ≤ code && code ≤ range.2

def isBlank (c : Char) : Bool :=
  inRanges blankRanges c.toNat

/-! ## Dropping characters at the ends -/

def dropStartWhile (p : Char → Bool) (chars : List Char) : List Char :=
  chars.dropWhile p

def dropEndWhile (p : Char → Bool) (chars : List Char) : List Char :=
  (chars.reverse.dropWhile p).reverse

def dropEndsWhile (p : Char → Bool) (chars : List Char) : List Char :=
  dropEndWhile p (dropStartWhile p chars)

def trimStart (s : String) : String :=
  String.ofList (dropStartWhile isBlank s.toList)

def trimEnd (s : String) : String :=
  String.ofList (dropEndWhile isBlank s.toList)

def trim (s : String) : String :=
  String.ofList (dropEndsWhile isBlank s.toList)

def trimMark (mark : Char) (s : String) : String :=
  String.ofList (dropEndsWhile (· == mark) s.toList)

/-- A line is vacant if it holds nothing but blanks. -/
def isVacant (s : String) : Bool :=
  s.toList.all isBlank

/--
How many blanks stand before the first other character; a vacant line counts all
of its own.
-/
def indent (s : String) : Nat :=
  (s.toList.takeWhile isBlank).length

/-! ## Words -/

def wordsFrom : List Char → List Char → List (List Char)
  | [], word => if word.isEmpty then [] else [word.reverse]
  | c :: rest, word =>
    if isBlank c then
      if word.isEmpty then wordsFrom rest [] else word.reverse :: wordsFrom rest []
    else wordsFrom rest (c :: word)

def words (s : String) : List String :=
  (wordsFrom s.toList []).map String.ofList

end DocHints.Text
