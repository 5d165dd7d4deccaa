import DocHints.Rest.Directive

/-!
# The outline of a marked-up text

`outline` lists the blocks at the top level of a text: paragraphs, lists,
quotes, sections and so on, each with the line it is said to begin on.  A block
that is not closed by a vacant line is followed by a complaint.  Markup inside a
block is read only to see that it has no fatal fault.
-/

namespace DocHints.Rest

def fatal (message : String) : Failure :=
  .withText (.custom "SystemMessage") message

inductive Step where
  | found (blocks : List Block) (rest : List Line)
  | title (style : String) (number : Nat) (after : List Line)
  deriving Repr

abbrev Nested := List Line → Except Failure (List Block)

/-! ## Runs of items -/

def readRun {σ : Type} (next? : σ → Line → List Line → Option (σ × Body)) :
    Nat → σ → Body → List Body
  | 0, _, body => [body]
  | fuel + 1, state, body =>
    match body.rest with
    | [] => [body]
    | line :: rest =>
      match next? state line rest with
      | some (state, next) => body :: readRun next? fuel state next
      | none => [body]

def runStep (nested : Nested) (blocks : List Block) (first : Body)
    (bodies : List Body) : Except Failure Step := do
  bodies.forM fun body => discard (nested body.content)
  let final := bodies.getLastD first
  let complaints := if final.finished then [] else [complaint (some final.last)]
  return .found (blocks ++ complaints) final.rest

def bulletBody? (mark : Char) (_ : Unit) (line : Line) (rest : List Line) :
    Option (Unit × Body) := do
  let (found, width) ← bullet? line.chars
  if found == mark then return ((), itemBody width line rest) else none

def fieldBody? (_ : Unit) (line : Line) (rest : List Line) : Option (Unit × Body) := do
  let (name, width) ← field? line.chars
  return ((), { bodyAfter width line rest with label := name })

def optionBody? (_ : Unit) (line : Line) (rest : List Line) : Option (Unit × Body) := do
  let width ← option? line.chars
  let body := bodyAfter width line rest
  if (trimVacant body.content).isEmpty then none else return ((), body)

/-- The next item of an enumerated list carries the next ordinal in the same style. -/
def enumBody? (style : EnumStyle) (sequence : Sequence) (state : Nat × Bool)
    (line : Line) (rest : List Line) : Option ((Nat × Bool) × Body) := do
  let found ← enumerator? line.chars
  let kind ← Sequence.expecting sequence found.label
  let ordinal ← kind.ordinal? found.label
  let follows :=
    kind == .auto || (kind == sequence && !state.2 && ordinal == state.1 + 1)
  if found.style == style && follows && continuesList style kind ordinal rest then
    return ((ordinal, state.2 || kind == .auto), itemBody found.width line rest)
  else none

def lineBlockBody? (_ : Unit) (line : Line) (rest : List Line) :
    Option (Unit × Body) := do
  let width ← mark? "|" line.chars
  return ((), bodyToVacant width line rest)

/-- A term is a line of running text with an indented line below it. -/
def definitionBody? (_ : Unit) (line : Line) (rest : List Line) :
    Option (Unit × Body) :=
  match rest with
  | next :: _ =>
    if isPlain line && !next.isVacant && next.isIndented then
      let (more, rest) := stretch Line.isIndented rest
      some ((), ⟨[], dropMargin more, line :: more, rest, isFinished more rest⟩)
    else none
  | [] => none

/-! ## Quotes -/

/-- The attribution of a quote opens with two or three dashes or a long one. -/
def isAttribution (line : Line) : Bool :=
  match line.chars with
  | '—' :: rest => !(rest.dropWhile (· == ' ')).isEmpty
  | '-' :: '-' :: rest =>
    let rest := match rest with
      | '-' :: more => more
      | _ => rest
    rest.head? != some '-' && !(rest.dropWhile (· == ' ')).isEmpty
  | _ => false

/-- The lines of an attribution: after the first they share one margin. -/
def attributionLength? (lines : List Line) : Option Nat :=
  match lines.takeWhile fun line => !line.isVacant with
  | [] => none
  | _ :: more =>
    match more.map fun line => Text.indent line.text with
    | [] => some 1
    | margin :: margins =>
      if margins.all (· == margin) then some (margins.length + 2) else none

def splitQuote : List Line → Bool → Bool → List Line → List Line × List Line
  | before, _, _, [] => (before.reverse, [])
  | before, seen, vacantBefore, line :: rest =>
    if line.isVacant then splitQuote (line :: before) seen true rest
    else
      let ending :=
        if seen && vacantBefore && isAttribution line then
          attributionLength? (line :: rest)
        else none
      match ending with
      | some length => (before.reverse, (line :: rest).drop length)
      | none => splitQuote (line :: before) true false rest

/-- The quotes in an indented stretch; an attribution ends one. -/
def quotes (nested : Nested) : Nat → List Line → Except Failure (List Block)
  | 0, _ => .ok []
  | fuel + 1, lines =>
    match lines.dropWhile Line.isVacant with
    | [] => .ok []
    | first :: rest => do
      let (own, others) := splitQuote [] false false (first :: rest)
      let _ ← nested own
      return ⟨"block_quote", some first.number, []⟩ :: (← quotes nested fuel others)

/-! ## Literal blocks -/

/-- A block whose lines all open with one mark of punctuation stands for itself. -/
def quotedLiteral (last : Nat) (lines : List Line) : List Block × List Line :=
  let (vacant, rest) := lines.span Line.isVacant
  let before := lastNumber vacant last
  match rest with
  | [] => ([complaint (some before)], [])
  | line :: more =>
    match line.chars with
    | c :: _ =>
      if isPunctuation c then
        let (own, after) := (line :: more).span fun next => next.chars.head? == some c
        let block : Block := ⟨"literal_block", some line.number, []⟩
        match after with
        | [] => ([block], [])
        | next :: _ =>
          if next.isVacant then ([block], after)
          else ([block, complaint (some (lastNumber own line.number))], after)
      else ([complaint (some before)], rest)
    | [] => ([complaint (some before)], rest)

/--
The literal block that a paragraph announces; `last` is the paragraph's last
line.
-/
def literalAfter (last : Nat) (lines : List Line) : List Block × List Line :=
  let (block, rest) := stretch Line.isIndented lines
  match block.dropWhile Line.isVacant with
  | [] => quotedLiteral last lines
  | first :: _ =>
    let own : Block := ⟨"literal_block", some first.number, []⟩
    match rest with
    | [] => ([own], [])
    | next :: _ =>
      if isFinished block rest then ([own], rest)
      else ([own, complaint (some next.number)], rest)

/-! ## Running text -/

def announcesLiteral (text : List Char) : Bool :=
  match text.reverse with
  | ':' :: ':' :: before => (before.takeWhile (· == '\\')).length % 2 == 0
  | _ => false

/--
The paragraph of some lines, unless it consists of two colons, and whether it
announces.
-/
def paragraph (lines : List Line) : List Block × Bool :=
  let text := (Text.trimEnd (Text.unlines (lines.map Line.text))).toList
  let announces := announcesLiteral text
  let number := match lines with
    | [] => none
    | line :: _ => some line.number
  (if announces && text.length == 2 then [] else [⟨"paragraph", number, []⟩], announces)

/-- A paragraph goes on to a vacant line; an indented line in between is a fault. -/
def paragraphStep (line : Line) (rest : List Line) : Step :=
  let (more, rest) := rest.span fun next => !next.isVacant && !next.isIndented
  let last := lastNumber more line.number
  let (blocks, announces) := paragraph (line :: more)
  let complaints := match rest with
    | next :: _ => if next.isVacant then [] else [complaint (some last)]
    | [] => []
  if announces then
    let (literal, rest) := literalAfter last rest
    .found (blocks ++ complaints ++ literal) rest
  else .found (blocks ++ complaints) rest

def textStep (titled : Bool) (nested : Nested) (line : Line) (rest : List Line) :
    Except Failure Step :=
  match rest with
  | [] => .ok (paragraphStep line [])
  | next :: after =>
    if next.isVacant then .ok (paragraphStep line rest)
    else if next.isIndented then
      let (more, others) := stretch Line.isIndented rest
      let first : Body :=
        ⟨[], dropMargin more, line :: more, others, isFinished more others⟩
      let bodies := readRun definitionBody? others.length () first
      runStep nested [⟨"definition_list", some next.number, []⟩] first bodies
    else match ruler? next.chars with
      | none => .ok (paragraphStep line rest)
      | some mark =>
        let short := (Text.trimEnd next.text).length < (Text.trimEnd line.text).length
        if short && (Text.trimEnd next.text).length < 4 then
          match paragraphStep line rest with
          | .found blocks others =>
            .ok (.found (if titled then complaint (some next.number) :: blocks
              else blocks) others)
          | step => .ok step
        else if titled then .ok (.title (String.singleton mark) next.number after)
        else .error (fatal "Unexpected section title.")

def withComplaint (number : Option Nat) : Step → Step
  | .found blocks rest => .found (complaint number :: blocks) rest
  | step => step

/-- A ruler is a transition, or the line above the title of a section. -/
def rulerStep (nested : Nested) (line : Line) (mark : Char) (rest : List Line) :
    Except Failure Step :=
  let short := line.text.length < 4
  let transition : Step := .found [⟨"transition", some line.number, []⟩] rest
  match rest with
  | [] => if short then textStep true nested line rest else .ok transition
  | next :: after =>
    if next.isVacant then
      if short then textStep true nested line rest else .ok transition
    else if (ruler? next.chars).isSome then
      if short then
        (textStep true nested line rest).map (withComplaint (some next.number))
      else .ok (.found [complaint (some next.number)] after)
    else
      let below := after.head?
      let matching := match below with
        | some under => under.text == line.text
        | none => false
      let fits := (Text.trimEnd next.text).length ≤ line.text.length
      if short && !(matching && fits) then
        (textStep true nested line rest).map (withComplaint (below.map Line.number))
      else if matching then
        .ok (.title (String.ofList [mark, mark])
          (match below with | some under => under.number | none => line.number)
            (after.drop 1))
      else .error (fatal "Missing matching underline for section title overline.")

/-! ## Explicit markup -/

def explicitConstruct (nested : Nested) (line : Line) (rest : List Line)
    (found : Explicit) : Except Failure (List Block × Body) := do
  let nextVacant (lines : List Line) : Bool :=
    match lines with
    | [] => true
    | next :: _ => next.isVacant
  match found with
  | .footnote width =>
    let body := bodyAfter width line rest
    let _ ← nested (trimVacant body.content)
    let tag := if (line.chars.drop 3).head?.any fun c =>
      c.isDigit || c == '#' || c == '*'
      then "footnote" else "citation"
    return ([⟨tag, some line.number, []⟩], body)
  | .target =>
    let body := bodyToVacant 0 line rest
    let text := Text.join "" (body.block.map Line.text)
    if Text.contains ":" (Text.dropChars 2 text) then
      return ([⟨"target", some line.number, []⟩], body)
    else
      let body := bodyAfter 3 line rest
      return ([⟨"comment", some body.last, []⟩, complaint (some body.last)], body)
  | .substitution =>
    let body := bodyAfter 0 line rest
    return ([⟨"substitution_definition", some line.number, []⟩], body)
  | .directive name width =>
    let body := bodyAfter width line rest
    let blocks ← directiveBlocks nested name line.number body.last body.content
    return (blocks, { body with finished := body.finished || nextVacant body.rest })
  | .comment width =>
    if nextVacant rest && (line.chars.drop width).isEmpty then
      return ([⟨"comment", some line.number, []⟩], ⟨[], [], [line], rest, true⟩)
    else
      let body := bodyAfter width line rest
      return ([⟨"comment", some body.last, []⟩], body)

def explicitAt? (line : Line) : Option (Option Explicit) :=
  match explicit? line.chars with
  | some found => some (some found)
  | none => if (mark? "__" line.chars).isSome then some none else none

/-- Consecutive explicit constructs; only the last is asked whether it is finished. -/
def explicitRun (nested : Nested) :
    Nat → Line → List Line → Except Failure (List Block × Body)
  | fuel, line, rest => do
    let (blocks, body) ← match explicit? line.chars with
      | some found => explicitConstruct nested line rest found
      | none => pure ([⟨"target", some line.number, []⟩], bodyToVacant 0 line rest)
    match fuel, body.rest with
    | fuel + 1, next :: others =>
      if (explicitAt? next).isSome then
        let (more, final) ← explicitRun nested fuel next others
        return (blocks ++ more, final)
      else return (blocks, body)
    | _, _ => return (blocks, body)

/-! ## Tables -/

/--
A table with drawn borders: every line opens and ends with one, and the last is
one.
-/
def gridStep (line : Line) (rest : List Line) : Step :=
  let width := line.text.length
  let isRow (row : Line) : Bool :=
    row.chars.head? == some '+' || row.chars.head? == some '|'
  let (more, rest) := rest.span fun row => !row.isVacant && isRow row
  let block := line :: more
  let closed (row : Line) : Bool :=
    row.text.length == width
      && (row.chars.getLast? == some '+' || row.chars.getLast? == some '|')
  let last := lastNumber more line.number
  let bordered := !more.isEmpty && (more.getLast?.any fun row => isGridTop row.chars)
  let unfinished := match rest with
    | [] => []
    | next :: _ => if next.isVacant then [] else [complaint none]
  if bordered && block.all closed then .found (⟨"table", none, []⟩ :: unfinished) rest
  else .found [complaint (some last)] rest

def simpleTableLength (width : Nat) : Nat → Nat → List Line → Option Nat
  | _, _, [] => none
  | found, length, line :: rest =>
    let isBorder :=
      line.chars.head? == some '=' && line.chars.all fun c => c == '=' || c == ' '
    if isBorder then
      if line.text.length != width then none
      else if found == 1 then some (length + 1)
      else match rest with
        | [] => some (length + 1)
        | next :: _ => if next.isVacant then some (length + 1)
          else simpleTableLength width (found + 1) (length + 1) rest
    else simpleTableLength width found (length + 1) rest

def simpleTableStep (line : Line) (rest : List Line) : Step :=
  match simpleTableLength line.text.length 0 0 rest with
  | some length =>
    let after := rest.drop length
    let unfinished := match after with
      | [] => []
      | next :: _ => if next.isVacant then [] else [complaint none]
    .found (⟨"table", none, []⟩ :: unfinished) after
  | none => .found [complaint (some (lastNumber rest line.number))] []

/-! ## Blocks -/

def dropEscapes : List Char → List Char
  | '\\' :: ' ' :: rest => dropEscapes rest
  | '\\' :: c :: rest => c :: dropEscapes rest
  | c :: rest => c :: dropEscapes rest
  | [] => []

def readStep (titled : Bool) (nested : Nested) (line : Line) (rest : List Line) :
    Except Failure Step := do
  let chars := line.chars
  let own (tag : String) : Block := ⟨tag, some line.number, []⟩
  if line.isIndented then
    let (more, others) := stretch Line.isIndented rest
    let block := line :: more
    let blocks ← quotes nested block.length (dropMargin block)
    let complaints := if isFinished block others then [] else [complaint none]
    return .found (blocks ++ complaints) others
  if let some (mark, width) := bullet? chars then
    let first := itemBody width line rest
    let bodies := readRun (bulletBody? mark) rest.length () first
    return ← runStep nested [own "bullet_list"] first bodies
  if let some mark := enumerator? chars then
    if let some sequence := Sequence.ofLabel? mark.label then
      if let some ordinal := sequence.ordinal? mark.label then
        if continuesList mark.style sequence ordinal rest then
          let first := itemBody mark.width line rest
          let kind := if sequence == .auto then .arabic else sequence
          let bodies := readRun (enumBody? mark.style kind) rest.length
            (ordinal, sequence == .auto) first
          let start := if ordinal == 1 then [] else [complaint (some line.number)]
          return ← runStep nested (own "enumerated_list" :: start) first bodies
    return ← textStep titled nested line rest
  if let some (_, first) := fieldBody? () line rest then
    let bodies := readRun fieldBody? rest.length () first
    let names := bodies.map fun body => String.ofList (dropEscapes body.label)
    return ← runStep nested [{ own "field_list" with fields := names }] first bodies
  if (option? chars).isSome then
    if let some (_, first) := optionBody? () line rest then
      let bodies := readRun optionBody? rest.length () first
      return ← runStep nested [own "option_list"] first bodies
    else return ← textStep titled nested line rest
  if (mark? ">>>" chars).isSome then
    return .found [⟨"doctest_block", some (line.number + 1), []⟩]
      (rest.dropWhile fun next => !next.isVacant)
  if let some (_, first) := lineBlockBody? () line rest then
    let bodies :=
      if first.finished then [first] else readRun lineBlockBody? rest.length () first
    return ← runStep (fun _ => .ok []) [own "line_block"] first bodies
  if isGridTop chars then return gridStep line rest
  if isSimpleTop chars then return simpleTableStep line rest
  if (explicitAt? line).isSome then
    let (blocks, body) ← explicitRun nested rest.length line rest
    let complaints := if body.finished then [] else [complaint (some body.last)]
    return .found (blocks ++ complaints) body.rest
  if let some mark := ruler? chars then
    if titled then return ← rulerStep nested line mark rest
    if line.text == "::" then return ← textStep titled nested line rest
    if line.text.length < 4 then
      return withComplaint (some line.number) (← textStep titled nested line rest)
    throw (fatal "Unexpected section title or transition.")
  textStep titled nested line rest

structure Titles where
  styles : List String
  level : Nat
  deriving Inhabited, Repr

structure Reading where
  blocks : List Block
  rest : List Line
  titles : Titles
  deriving Inhabited, Repr

def Titles.depth? (titles : Titles) (style : String) : Option Nat :=
  match titles.styles.findIdx? (· == style) with
  | some index => if index ≤ titles.level then some (index + 1) else none
  | none =>
    if titles.styles.length == titles.level then some (titles.level + 1) else none

/--
Reads blocks up to the end or to a title of an outer section.  Every call takes
lines with fewer characters and line ends, so that `fuel` is never short if it
starts from their number.
-/
def readBlocks (titled : Bool) : Nat → Titles → List Line → Except Failure Reading
  | 0, titles, _ => .ok ⟨[], [], titles⟩
  | fuel + 1, titles, lines =>
    match lines.dropWhile Line.isVacant with
    | [] => .ok ⟨[], [], titles⟩
    | line :: rest => do
      let nested : Nested := fun content => do
        return (← readBlocks false fuel ⟨[], 0⟩ content).blocks
      match ← readStep titled nested line rest with
      | .found blocks others =>
        let more ← readBlocks titled fuel titles others
        return { more with blocks := blocks ++ more.blocks }
      | .title style number after =>
        match titles.depth? style with
        | none => throw (fatal "Title level inconsistent:")
        | some depth =>
          if depth ≤ titles.level then
            return ⟨[], line :: rest, { titles with level := depth }⟩
          let styles := if titles.styles.length < depth then titles.styles ++ [style]
            else titles.styles
          let inner ← readBlocks titled fuel ⟨styles, depth⟩ after
          let section_ : Block := ⟨"section", some number, []⟩
          if inner.titles.level ≤ titles.level then
            return { inner with blocks := [section_] }
          let more ← readBlocks titled fuel
              { inner.titles with level := titles.level } inner.rest
          return { more with blocks := section_ :: more.blocks }

def outline (text : String) : Except Failure (List Block) := do
  let lines := linesOf text
  let fuel := lines.foldl (fun size line => size + line.text.length + 1) 1
  return (← readBlocks true fuel ⟨[], 0⟩ lines).blocks

end DocHints.Rest
