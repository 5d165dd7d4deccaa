import DocHints.Entries
import DocHints.Source.Parser.Stmt
import DocHints.Text.Lines

/-!
# Type comments

A function may give its types in a comment `(arguments) -> result` on the first
line of its body, or in a comment behind each parameter.
-/

namespace DocHints.Hints

/-! ## The source of a definition -/

def isDefinitionLine (line : String) : Bool :=
  let text := Text.trimStart line
  Text.startsWith "def " text || Text.startsWith "async def" text

def blanksOf (line : String) : String :=
  String.ofList (line.toList.takeWhile Text.isBlank)

/-- Puts a margin before a line that lacks it. -/
def withMargin (margin line : String) : String :=
  margin ++ (Text.afterStart? margin line).getD line

def alignSource (source : String) : String :=
  let lines := Text.linesOf source
  match lines.find? isDefinitionLine with
  | none => source
  | some definition => Text.unlines (lines.map (withMargin (blanksOf definition)))

/-! ## The parts of a comment -/

def depthChange (c : Char) : Int :=
  if c = '[' || c = '(' then 1 else if c = ']' || c = ')' then -1 else 0

/--
Divides at the commas outside of brackets; `piece` is the piece being read,
reversed.
-/
def splitAtCommas : Int → List Char → List Char → List (List Char)
  | _, piece, [] => [piece.reverse]
  | depth, piece, c :: rest =>
    if c = ',' && depth == 0 then piece.reverse :: splitAtCommas depth [] rest
    else splitAtCommas (depth + depthChange c) (c :: piece) rest

def cleanArgument (chars : List Char) : String :=
  String.ofList ((Text.dropEndsWhile Text.isBlank chars).dropWhile (· == '*'))

def splitArguments (comment : String) : List String :=
  let bare := Text.dropEndsWhile Text.isBlank comment.toList
  let inner := Text.dropEndWhile (· == ')') (bare.dropWhile (· == '('))
  if inner.isEmpty then [] else (splitAtCommas 0 [] inner).map cleanArgument

/-! ## Types from a comment -/

structure CommentParam where
  name : String
  comment : Option String
  deriving DecidableEq, Repr, Inhabited

inductive CommentFault where
  | unreadable
  | incomplete
  deriving DecidableEq, Repr

def inlineTypes (params : List CommentParam) (known : List (String × String)) :
    List (String × String) :=
  (params.map fun param => (param.name, param.comment)).foldl Entries.putSome known

def zipTypes (params : List CommentParam) (texts : List (Option String))
    (known : List (String × String)) : List (String × String) :=
  ((params.map (·.name)).zip texts).foldl Entries.putSome known

/--
The types that the comment of a function gives, the result first.  A leading
`self` or `cls` may be left out.  A fault leaves what was found before it.
-/
def commentTypes (params : List CommentParam) (comment : String) :
    List (String × String) × Option CommentFault :=
  match Text.splitAll " -> " comment with
  | [arguments, result] =>
    let known := if result.isEmpty then [] else [("return", result)]
    let texts := splitArguments arguments
    if texts == ["..."] then (inlineTypes params known, none)
    else
      let texts := texts.map some
      let receiver := match params with
        | first :: _ => first.name == "self" || first.name == "cls"
        | [] => false
      let texts :=
        if receiver && texts.length != params.length then none :: texts else texts
      if params.length != texts.length then (known, some .incomplete)
      else (zipTypes params texts known, none)
  | _ => ([], some .unreadable)

end DocHints.Hints
