import DocHints.Attributes
import DocHints.Docstring.Position
import DocHints.Text.Cut
import DocHints.Text.Word

/-!
# The types of instance variables

A field `:ivar name:` documents an attribute of an instance; its type goes into
a field `:vartype` above it.  A type may stand in the field itself, between the
keyword and the name.
-/

namespace DocHints.Docstring

def closedName? (chars : List Char) : Option String :=
  let name := chars.takeWhile Text.isWord
  match (chars.drop name.length).dropWhile Text.isBlank with
  | ':' :: _ => if name.isEmpty then none else some (String.ofList name)
  | _ => none

def spacedName? (chars : List Char) : Option String :=
  match chars with
  | c :: rest =>
    if Text.isBlank c then closedName? (rest.dropWhile Text.isBlank) else none
  | [] => none

/--
The name after the shortest type that leaves one; `chars` follows the first
character of it.
-/
def nameAfterType? : List Char → Option String
  | [] => none
  | c :: rest =>
    match spacedName? (c :: rest) with
    | some name => some name
    | none => if c = '\n' then none else nameAfterType? rest

/-- The attribute that a line documents, and whether its type stands in the line. -/
def instanceField? (line : String) : Option (String × Bool) :=
  match Text.dropStart? ":ivar".toList line.toList with
  | none => none
  | some rest =>
    match rest with
    | [] => none
    | c :: _ =>
      if Text.isBlank c then
        match (rest.dropWhile Text.isBlank).drop 1 with
        | typed =>
          match nameAfterType? typed with
          | some name => some (name, true)
          | none => (spacedName? rest).map fun name => (name, false)
      else none

def hasInstanceType (lines : Lines) (name : String) : Bool :=
  lines.any (Text.startsWith (":vartype " ++ name ++ ":"))

/--
Puts the types above the fields that lack one.  `before` holds the lines that
are done, in reverse order.
-/
def injectInstanceTypesFrom (typeText : Value → Except Failure String)
    (hints : Annotations) : Lines → Lines → Except Failure Lines
  | before, [] => .ok before.reverse
  | before, line :: rest =>
    match instanceField? line with
    | some (name, false) =>
      if hasInstanceType before name || hasInstanceType (line :: rest) name then
        injectInstanceTypesFrom typeText hints (line :: before) rest
      else
        match hints.find? (·.1 == name) with
        | none => injectInstanceTypesFrom typeText hints (line :: before) rest
        | some (_, hint) => do
          let field := ":vartype " ++ name ++ ": " ++ (← typeText hint)
          injectInstanceTypesFrom typeText hints (line :: field :: before) rest
    | _ => injectInstanceTypesFrom typeText hints (line :: before) rest

def injectInstanceTypes (typeText : Value → Except Failure String) (hints : Annotations)
    (lines : Lines) : Except Failure Lines :=
  injectInstanceTypesFrom typeText hints [] lines

end DocHints.Docstring
