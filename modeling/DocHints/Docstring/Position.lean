import DocHints.Failure

/-!
# Positions in a docstring

A docstring is a list of lines.  A position counts from the first line, or from
behind the last one if it is negative.  Reading and replacing fail outside the
list; an insertion goes to the nearer end.
-/

namespace DocHints.Docstring

abbrev Lines := List String

def place? (length : Nat) (position : Int) : Option Nat :=
  let place := if position < 0 then position + length else position
  if 0 ≤ place && place < length then some place.toNat else none

def outOfRange : Failure :=
  .outOfRange "list index out of range"

def lineAt (lines : Lines) (position : Int) : Except Failure String :=
  match (place? lines.length position).bind fun place => lines[place]? with
  | some line => .ok line
  | none => .error outOfRange

def setLine (lines : Lines) (position : Int) (line : String) : Except Failure Lines :=
  match place? lines.length position with
  | some place => .ok (lines.set place line)
  | none => .error outOfRange

def insertPlace (length : Nat) (position : Int) : Nat :=
  let place := if position < 0 then position + length else position
  min place.toNat length

def insertLine (lines : Lines) (position : Int) (line : String) : Lines :=
  let place := insertPlace lines.length position
  lines.take place ++ line :: lines.drop place

end DocHints.Docstring
