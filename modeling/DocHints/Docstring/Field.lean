import DocHints.Docstring.Position
import DocHints.Text.Cut

/-!
# Field lines

A field is a line `:keyword argument: description`.  Its two colons divide it
into what stands before it, the keyword with its argument, and the description.
-/

namespace DocHints.Docstring

/-- The parts before, between and after the first two colons. -/
structure FieldParts where
  before : List Char
  head : List Char
  after : List Char
  deriving DecidableEq, Repr

def fieldParts? (line : List Char) : Option FieldParts :=
  match Text.cut? [':'] line with
  | none => none
  | some (before, rest) =>
    match Text.cut? [':'] rest with
    | none => none
    | some (head, after) => some ⟨before, head, after⟩

/--
The first word of a text and what follows it, from the next word on; `none` for
a text without words.
-/
def firstWord? (chars : List Char) : Option (List Char × List Char) :=
  let text := chars.dropWhile Text.isBlank
  if text.isEmpty then none
  else
    let word := text.takeWhile fun c => !Text.isBlank c
    some (word, (text.drop word.length).dropWhile Text.isBlank)

def keywordAndArgument? (line : String) : Option (String × Option String) :=
  match fieldParts? line.toList with
  | none => none
  | some parts =>
    match firstWord? parts.head with
    | none => none
    | some (keyword, []) => some (String.ofList keyword, none)
    | some (keyword, argument) =>
      some (String.ofList keyword, some (String.ofList argument))

def starMarks : List String :=
  ["", "\\*", "\\**", "\\*\\*"]

def paramKeywords : List String :=
  ["param", "parameter", "arg", "argument"]

/-- Whether an argument names a parameter, after an optional type. -/
def namesParam (argument name : String) : Bool :=
  starMarks.any (fun mark => argument == mark ++ name) ||
    starMarks.any (fun mark => Text.endsWith (" " ++ mark ++ name) argument)

def isParamLine (line name : String) : Bool :=
  match keywordAndArgument? line with
  | some (keyword, some argument) =>
    paramKeywords.contains keyword && namesParam argument name
  | _ => false

def argumentOf? (line : String) : Option String :=
  match keywordAndArgument? line with
  | some (_, argument) => argument
  | none => none

/--
A field line for a parameter without the type that stands before the name;
`none` if the line does not end its head with the name.
-/
def withoutInlineType (line name : String) : Except Failure (Option String) :=
  match fieldParts? line.toList with
  | none => .ok none
  | some parts =>
    let head := String.ofList parts.head
    match starMarks.find? fun mark => Text.endsWith (" " ++ mark ++ name) head with
    | none => .ok none
    | some mark =>
      match firstWord? parts.head with
      | none => .error outOfRange
      | some (keyword, _) =>
        .ok (some (":" ++ String.ofList keyword ++ " " ++ mark ++ name ++ ":"
          ++ String.ofList parts.after))

def isYieldsLine (line : String) : Bool :=
  let text := Text.trimStart line
  [":Yields:", ":yields:", ":yield:"].any fun mark => Text.startsWith mark text

def hasYields (lines : Lines) : Bool :=
  lines.any isYieldsLine

def isReturnLine (line : String) : Bool :=
  Text.startsWith ":return:" line || Text.startsWith ":returns:" line

end DocHints.Docstring
