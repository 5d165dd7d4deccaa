import DocHints.Text.Blank

/-!
# Cutting text at a mark

Search, division and replacement of a fixed piece of text inside another, on
lists of characters, with the same operations on strings beneath them.
-/

namespace DocHints.Text

def dropStart? : List Char → List Char → Option (List Char)
  | [], rest => some rest
  | _ :: _, [] => none
  | m :: mark, c :: rest => if m = c then dropStart? mark rest else none

def cut? (mark : List Char) : List Char → Option (List Char × List Char)
  | [] => if mark.isEmpty then some ([], []) else none
  | c :: rest =>
    match dropStart? mark (c :: rest) with
    | some after => some ([], after)
    | none => (cut? mark rest).map fun halves => (c :: halves.1, halves.2)

def cutLast? (mark : List Char) (chars : List Char) : Option (List Char × List Char) :=
  (cut? mark.reverse chars.reverse).map fun halves =>
    (halves.2.reverse, halves.1.reverse)

/--
Divides at every occurrence of `mark`, left to right.  `skip` counts the
characters of an occurrence that are still to be passed over; `piece` is the
piece being read, reversed.
-/
def divideFrom (mark : List Char) : List Char → Nat → List Char → List (List Char)
  | [], _, piece => [piece.reverse]
  | _ :: rest, skip + 1, piece => divideFrom mark rest skip piece
  | c :: rest, 0, piece =>
    match dropStart? mark (c :: rest) with
    | some _ => piece.reverse :: divideFrom mark rest (mark.length - 1) []
    | none => divideFrom mark rest 0 (c :: piece)

def divide (mark : List Char) (chars : List Char) : List (List Char) :=
  divideFrom mark chars 0 []

/-- Replaces every occurrence of `mark`, left to right; `skip` is as in `divideFrom`. -/
def replaceFrom (mark other : List Char) : List Char → Nat → List Char
  | [], _ => []
  | _ :: rest, skip + 1 => replaceFrom mark other rest skip
  | c :: rest, 0 =>
    match dropStart? mark (c :: rest) with
    | some _ => other ++ replaceFrom mark other rest (mark.length - 1)
    | none => c :: replaceFrom mark other rest 0

/-! ## Strings -/

def startsWith (mark s : String) : Bool :=
  (dropStart? mark.toList s.toList).isSome

def endsWith (mark s : String) : Bool :=
  (dropStart? mark.toList.reverse s.toList.reverse).isSome

def contains (mark s : String) : Bool :=
  (cut? mark.toList s.toList).isSome

def afterStart? (mark s : String) : Option String :=
  (dropStart? mark.toList s.toList).map String.ofList

def beforeEnd? (mark s : String) : Option String :=
  (dropStart? mark.toList.reverse s.toList.reverse).map fun rest =>
    String.ofList rest.reverse

def splitFirst? (mark s : String) : Option (String × String) :=
  (cut? mark.toList s.toList).map fun halves =>
    (String.ofList halves.1, String.ofList halves.2)

def splitLast? (mark s : String) : Option (String × String) :=
  (cutLast? mark.toList s.toList).map fun halves =>
    (String.ofList halves.1, String.ofList halves.2)

/-- Divides at the last occurrences of `mark`, at `count` of them at most. -/
def splitFromEnd (mark : String) : Nat → String → List String
  | 0, s => [s]
  | count + 1, s =>
    match splitLast? mark s with
    | some (front, last) => splitFromEnd mark count front ++ [last]
    | none => [s]

def splitAll (mark s : String) : List String :=
  (divide mark.toList s.toList).map String.ofList

def replaceAll (mark other s : String) : String :=
  String.ofList (replaceFrom mark.toList other.toList s.toList 0)

def join (between : String) (pieces : List String) : String :=
  between.intercalate pieces

def dotted (name : String) : List String :=
  splitAll "." name

def lastPart (name : String) : String :=
  match splitLast? "." name with
  | some (_, last) => last
  | none => name

def dropChars (n : Nat) (s : String) : String :=
  String.ofList (s.toList.drop n)

end DocHints.Text
