import DocHints.Rest.Block
import DocHints.Rest.Line
import DocHints.Failure

/-!
# Directives

A directive is an explicit mark with a name, arguments, options and content.
Here stands which block each leaves in the outline of a text.  A directive that
only extensions know leaves nothing, and an unknown one leaves complaints.
-/

namespace DocHints.Rest

def complaint (line : Option Nat) : Block :=
  ⟨"system_message", line, []⟩

structure Body where
  label : List Char
  content : List Line
  block : List Line
  rest : List Line
  finished : Bool
  deriving Inhabited, Repr

def Body.last (body : Body) : Nat :=
  lastNumber body.block 0

/--
The body behind a mark of the given width: the rest of its line and all indented
lines.
-/
def bodyAfter (width : Nat) (line : Line) (rest : List Line) : Body :=
  let (more, rest) := stretch Line.isIndented rest
  let block := line :: more
  ⟨[], line.dropStart width :: dropMargin more, block, rest, isFinished block rest⟩

/--
The body behind a mark whose further lines are indented as far as the mark is
wide.
-/
def bodyWithin (width : Nat) (line : Line) (rest : List Line) : Body :=
  let (more, rest) := stretch (Line.isIndentedBy width) rest
  let block := line :: more
  ⟨[], block.map (Line.dropStart width), block, rest, isFinished block rest⟩

def bodyToVacant (width : Nat) (line : Line) (rest : List Line) : Body :=
  let (more, rest) := rest.span fun next => !next.isVacant && next.isIndented
  let block := line :: more
  let finished := match rest with
    | [] => true
    | next :: _ => next.isVacant
  ⟨[], line.dropStart width :: dropMargin more, block, rest, finished⟩

/--
The body of an item: a mark that stands alone leaves the indentation of its
lines open.
-/
def itemBody (width : Nat) (line : Line) (rest : List Line) : Body :=
  if (line.dropStart width).text.isEmpty then bodyAfter width line rest
  else bodyWithin width line rest

/-! ## Arguments, options and content -/

structure DirectiveParts where
  arguments : List Line
  options : List (List Char)
  content : List Line
  deriving Inhabited, Repr

/--
Divides the body of a directive.  The lines up to the first vacant one hold the
arguments and then the options; where no arguments are taken, they belong to the
content.
-/
def directiveParts (takesArguments : Bool) (body : List Line) : DirectiveParts :=
  let body := match body with
    | first :: rest => if first.isVacant then rest else body
    | [] => []
  let body := (body.reverse.dropWhile Line.isVacant).reverse
  let (head, tail) := body.span fun line => !line.isVacant
  let isOption (line : Line) : Bool := (field? line.chars).isSome
  let (arguments, optionLines) := head.span fun line => !isOption line
  let options := optionLines.filterMap fun line => (field? line.chars).map (·.1)
  if takesArguments then ⟨arguments, options, tail.dropWhile Line.isVacant⟩
  else ⟨[], options, (arguments ++ tail).dropWhile Line.isVacant⟩

/-! ## What directives leave -/

def admonitions : List String :=
  ["attention", "caution", "danger", "error", "hint", "important", "note", "tip",
    "warning"]

def extensionDirectives : List String :=
  ["code-block", "sourcecode", "highlight", "literalinclude", "toctree",
   "sectionauthor", "moduleauthor", "codeauthor", "seealso", "tabularcolumns",
   "centered", "acks", "hlist", "only", "versionadded", "versionchanged",
   "versionremoved", "deprecated", "index", "describe", "object", "default-domain",
   "section-numbering"]

def silentDirectives : List String :=
  ["role", "default-role", "title", "meta", "header", "footer"]

def firstLine (blocks : List Block) : Option Nat :=
  blocks.head?.bind Block.line

/--
The blocks that a directive leaves.  `number` is its line, `last` the last line
of its body, and `nested` reads its content.
-/
def directiveBlocks (nested : List Line → Except Failure (List Block)) (name : String)
    (number last : Nat) (body : List Line) : Except Failure (List Block) := do
  let refused := [complaint (some last)]
  let plain := directiveParts false body
  let argued := directiveParts true body
  let key := name.toLower
  if admonitions.contains key then
    if plain.content.isEmpty || plain.options.any (fun option =>
        option != "class".toList && option != "name".toList) then return refused
    let _ ← nested plain.content
    return [⟨key, some number, []⟩]
  if key == "admonition" then
    if argued.arguments.isEmpty || argued.content.isEmpty then return refused
    let _ ← nested argued.content
    return [⟨key, some number, []⟩]
  if key == "code" then
    return if argued.content.isEmpty then refused
      else [⟨"literal_block", some number, []⟩]
  if key == "parsed-literal" then
    return match plain.content with
      | [] => refused
      | first :: _ => [⟨"literal_block", some first.number, []⟩]
  if key == "math" then return [⟨"math_block", some number, []⟩]
  if key == "image" then
    return if argued.arguments.isEmpty || !argued.content.isEmpty then refused
      else [⟨key, some number, []⟩]
  if key == "figure" then
    if argued.arguments.isEmpty then return refused
    let _ ← nested argued.content
    return [⟨key, some number, []⟩]
  if key == "topic" || key == "sidebar" then
    if argued.content.isEmpty || (key == "topic" && argued.arguments.isEmpty) then
      return refused
    let _ ← nested argued.content
    return [⟨key, none, []⟩]
  if key == "rubric" then
    return if argued.arguments.isEmpty then refused else [⟨key, some last, []⟩]
  if ["epigraph", "highlights", "pull-quote"].contains key then
    match plain.content with
    | [] => return refused
    | first :: _ =>
      let _ ← nested plain.content
      return [⟨"block_quote", some first.number, []⟩]
  if key == "compound" || key == "container" then
    let parts := if key == "compound" then plain else argued
    if parts.content.isEmpty then return refused
    return [⟨key, firstLine (← nested parts.content), []⟩]
  if ["table", "csv-table", "list-table"].contains key then
    return if argued.content.isEmpty then refused else [⟨"table", none, []⟩]
  if key == "class" then
    if argued.arguments.isEmpty then return refused
    if argued.content.isEmpty then return [⟨"pending", some last, []⟩]
    return ← nested argued.content
  if key == "raw" then
    return if argued.arguments.isEmpty || argued.content.isEmpty then refused
      else [⟨key, some number, []⟩]
  if key == "contents" then return [⟨"topic", some last, []⟩]
  if key == "sectnum" || key == "target-notes" then return [⟨"pending", some last, []⟩]
  if ["replace", "unicode", "date"].contains key then return refused
  if silentDirectives.contains key || extensionDirectives.contains key then return []
  return [complaint (some number), complaint (some last)]

end DocHints.Rest
