import DocHints.Rest.Outline

/-!
# Inline markup

The text of a paragraph as a list of nodes: plain text, emphasis, literals,
references and text with a role.  A mark opens markup only after a blank or an
opening sign, and closes it only before a blank or a closing sign.  An escaped
character is kept apart by a null character in front of it.
-/

namespace DocHints.Rest

/-- The attributes of a node; an empty one is not set. -/
structure NodeAttributes where
  classes : List String := []
  refType : String := ""
  refTarget : String := ""
  refDomain : String := ""
  deriving DecidableEq, Repr, Inhabited

inductive Node where
  | text (content : String)
  | element (tag : String) (attributes : NodeAttributes) (children : List Node)
  deriving Repr, Inhabited

namespace Node

def plain (tag : String) (children : List Node) : Node :=
  .element tag {} children

def classed (tag cssClass content : String) : Node :=
  .element tag { classes := [cssClass] } [.text content]

def reference (type target : String) (children : List Node) : Node :=
  .element "pending_xref"
    { refType := type, refTarget := target, refDomain := "py" } children

end Node

/-! ## Escapes -/

def markEscapes : List Char → List Char
  | [] => []
  | ['\\'] => ['\x00']
  | '\\' :: c :: rest => '\x00' :: c :: markEscapes rest
  | c :: rest => c :: markEscapes rest

/--
Resolves escapes: an escaped blank disappears, any other character stands for
itself.
-/
def resolveEscapes (chars : List Char) : String :=
  let text := Text.replaceAll "\x00 " "" (String.ofList chars)
  Text.replaceAll "\x00" "" (Text.replaceAll "\x00\n" "" text)

def restoreEscapes (chars : List Char) : String :=
  String.ofList (chars.map fun c => if c == '\x00' then '\\' else c)

/-! ## What may stand around markup -/

def quotePairs : List (Char × List Char) :=
  [('"', ['"']), ('\'', ['\'']), ('(', [')']), ('<', ['>']), ('[', [']']),
   ('\x7b', ['\x7d']), ('«', ['»']), ('‘', ['’', '‚']), ('“', ['”', '„']),
   ('‹', ['›']), ('»', ['«', '»']), ('’', ['‘', '’', '‚']), ('”', ['“', '”', '„']),
   ('›', ['‹', '›']), ('‚', ['‘', '’']), ('„', ['“', '”']), ('‛', ['’']),
   ('‟', ['”']), ('（', ['）']), ('［', ['］']), ('「', ['」']), ('『', ['』']),
   ('【', ['】']), ('《', ['》']), ('〈', ['〉'])]

def isOpener (c : Char) : Bool :=
  quotePairs.any (·.1 == c)

def isCloser (c : Char) : Bool :=
  quotePairs.any fun pair => pair.2.contains c

def isDelimiter (c : Char) : Bool :=
  let code := c.toNat
  ['-', '/', ':', '¡', '·', '¿', '、', '。', '！', '？', '：', '；', '，', '．'].contains c
    || (0x2010 ≤ code && code ≤ 0x2017) || (0x2020 ≤ code && code ≤ 0x2027)
    || (0x2030 ≤ code && code ≤ 0x2038)

def opensAfter (last : Option Char) : Bool :=
  match last with
  | none => true
  | some c => Text.isBlank c || isOpener c || isDelimiter c

def closesBefore (rest : List Char) : Bool :=
  match rest with
  | [] => true
  | c :: _ =>
    Text.isBlank c || c == '\x00' || ['\\', '.', ',', ';', '!', '?'].contains c
      || isDelimiter c
      || isCloser c

/-- Whether a mark is enclosed in a pair of signs, or ends the text. -/
def isEnclosed (last : Option Char) (rest : List Char) : Bool :=
  match last, rest with
  | none, _ => false
  | some _, [] => true
  | some opener, c :: _ =>
    match quotePairs.find? (·.1 == opener) with
    | some (_, closers) => closers.contains c
    | none => false

/-! ## Marks that close -/

/--
Looks for a closing mark; gives the text before it, reversed, and the rest after
it.
-/
def findEnd (mark : List Char) (mayFollow : Option Char → Bool) (before : List Char) :
    List Char → Option (List Char × List Char)
  | [] => none
  | c :: rest =>
    let found := if mayFollow before.head? then
        (Text.dropStart? mark (c :: rest)).filter closesBefore
      else none
    match found with
    | some after => some (before, after)
    | none => findEnd mark mayFollow (c :: before) rest

def afterSolid : Option Char → Bool
  | none => true
  | some c => !(Text.isBlank c || c == '\x00')

def afterNonBlank : Option Char → Bool
  | none => true
  | some c => !Text.isBlank c

def roleMark? (chars : List Char) : Option (List Char × List Char) :=
  match chars with
  | ':' :: rest =>
    let (name, after) := simpleName rest false
    match name, after with
    | _ :: _, ':' :: after => some (name, after)
    | _, _ => none
  | _ => none

structure BackquoteEnd where
  content : List Char
  role : Option (List Char)
  isReference : Bool
  rest : List Char
  deriving Repr

def backquoteTails (after : List Char) : List (Option (List Char) × Bool × List Char) :=
  let references (role : Option (List Char)) (rest : List Char) :
      List (Option (List Char) × Bool × List Char) :=
    let double := match Text.dropStart? ['_', '_'] rest with
      | some more => [(role, true, more)]
      | none => []
    let single := match Text.dropStart? ['_'] rest with
      | some more => [(role, true, more)]
      | none => []
    double ++ single ++ [(role, false, rest)]
  let withRole := match roleMark? after with
    | some (name, more) => references (some name) more
    | none => []
  withRole ++ references none after

/-- A backquote closes unless an unescaped blank or a lone escape stands before it. -/
def closesAfter (before : List Char) : Bool :=
  match before with
  | c :: d :: _ => !(Text.isBlank c || c == '\x00') || d == '\x00'
  | [c] => !(Text.isBlank c || c == '\x00')
  | [] => true

def findBackquote (before : List Char) : List Char → Option BackquoteEnd
  | [] => none
  | c :: rest =>
    let found := if c == '\x60' && closesAfter before then
        (backquoteTails rest).find? fun tail => closesBefore tail.2.2
      else none
    match found with
    | some (role, isReference, after) => some ⟨before.reverse, role, isReference, after⟩
    | none => findBackquote (c :: before) rest

/-! ## Roles -/

def plainRoles : List (String × String) :=
  [("", "title_reference"), ("title-reference", "title_reference"),
   ("emphasis", "emphasis"), ("strong", "strong"), ("literal", "literal"),
   ("subscript", "subscript"), ("sub", "subscript"), ("superscript", "superscript"),
   ("sup", "superscript"), ("math", "math")]

def objectRoles : List String :=
  ["data", "exc", "func", "class", "const", "attr", "meth", "mod", "obj"]

def explicitTitle? (chars : List Char) : Option (List Char × List Char) :=
  match chars.reverse with
  | '>' :: before =>
    let target := before.takeWhile (· != '<')
    match before.drop target.length with
    | '<' :: title =>
      let title := title.dropWhile Text.isBlank
      if title.isEmpty || (before.drop (target.length + 1)).head? == some '\x00'
        then none
      else some (title.reverse, target.reverse)
    | _ => none
  | _ => none

def withParens (title : String) : String :=
  (Text.beforeEnd? "()" title).getD title ++ "()"

/--
A reference to an object; a leading tilde shortens the title to the last part of
the name.
-/
def objectReference (kind : String) (chars : List Char) : Node :=
  let classes := ["xref", "py", "py-" ++ kind]
  let shown (title : String) : Node :=
    .element "literal" { classes := classes } [.text title]
  let clean (target : String) : String := (Text.afterStart? "." target).getD target
  match chars with
  | '!' :: rest => shown (resolveEscapes rest)
  | _ =>
    match explicitTitle? chars with
    | some (title, target) =>
      .reference kind (clean (resolveEscapes target)) [shown (resolveEscapes title)]
    | none =>
      let name := resolveEscapes chars
      let isCall := kind == "func" || kind == "meth"
      let title := if isCall then withParens name else name
      let target := if isCall then (Text.beforeEnd? "()" name).getD name else name
      let title := String.ofList (title.toList.dropWhile (· == '.'))
      let target := String.ofList (target.toList.dropWhile (· == '~'))
      let title := match Text.afterStart? "~" title with
        | some rest => Text.lastPart rest
        | none => title
      .reference kind (clean target) [shown title]

/--
The node for a text with a role; an unknown role leaves the text as it was
written.
-/
def roleNode (role : String) (content : List Char) (written : String) : Node :=
  let key := role.toLower
  match Text.afterStart? "py:" key with
  | some kind =>
    if objectRoles.contains kind then objectReference kind content
    else .plain "problematic" [.text written]
  | none =>
    match plainRoles.find? (·.1 == key) with
    | some (_, tag) => .plain tag [.text (resolveEscapes content)]
    | none =>
      if key == "code" then
        .element "literal" { classes := ["code"] } [.text (resolveEscapes content)]
      else .plain "problematic" [.text written]

/-! ## Reading -/

/--
Markup found at a place: the nodes it makes, or none where the mark stands for
itself.
-/
structure Found where
  nodes : List Node
  /-- The characters that belong to it. -/
  taken : Nat
  deriving Inhabited

def problematic (written : List Char) : List Node :=
  [.plain "problematic" [.text (restoreEscapes written)]]

def enclosedAt (tag : String) (mark closing : List Char) (literal : Bool)
    (last : Option Char) (rest : List Char) : Option Found :=
  match rest with
  | c :: _ => if Text.isBlank c then none else some (go rest)
  | [] => some (go rest)
where
  go (rest : List Char) : Found :=
    if isEnclosed last rest then ⟨[], mark.length⟩
    else
      match findEnd closing (if literal then afterNonBlank else afterSolid) [] rest with
      | some (before@(_ :: _), _) =>
        let content := before.reverse
        let shown := if literal then restoreEscapes content else resolveEscapes content
        ⟨[.plain tag [.text shown]], mark.length + content.length + closing.length⟩
      | _ => ⟨problematic mark, mark.length⟩

def backquotedAt (last : Option Char) (chars : List Char) : Option Found :=
  let (role, after) := match roleMark? chars with
    | some (name, rest) => (some name, rest)
    | none => (none, chars)
  let roleLength := chars.length - after.length
  match after with
  | '\x60' :: rest =>
    let opens := match rest with
      | c :: _ => c != '\x60' && !Text.isBlank c
      | [] => true
    if !opens then none
    else if role.isNone && isEnclosed last rest then some ⟨[], 1⟩
    else
      match findBackquote [] rest with
      | some ⟨content@(_ :: _), suffix, isReference, others⟩ =>
        let taken := chars.length - others.length
        let written := chars.take taken
        if (role.isSome && (suffix.isSome || isReference))
          || (suffix.isSome && isReference) then
          some ⟨problematic written, taken⟩
        else if isReference then
          some ⟨[.plain "reference" [.text (resolveEscapes content)]], taken⟩
        else
          let name := String.ofList ((role <|> suffix).getD [])
          some ⟨[roleNode name content (restoreEscapes written)], taken⟩
      | _ =>
        some ⟨problematic (chars.take (roleLength + 1) |>.drop roleLength),
          roleLength + 1⟩
  | _ => none

/-- A name with one or two underscores behind it refers to a target. -/
def referenceAt (chars : List Char) : Option Found :=
  let (name, after) := simpleName chars false
  if name.isEmpty then none
  else
    let mark := after.takeWhile (· == '_')
    if (mark.length == 1 || mark.length == 2)
      && closesBefore (after.drop mark.length) then
      some ⟨[.plain "reference" [.text (String.ofList name)]],
        name.length + mark.length⟩
    else none

def markupAt (last : Option Char) (chars : List Char) : Option Found :=
  if !opensAfter last then none
  else
    let simple := match chars with
      | '*' :: '*' :: rest => enclosedAt "strong" ['*', '*'] ['*', '*'] false last rest
      | '*' :: rest => enclosedAt "emphasis" ['*'] ['*'] false last rest
      | '\x60' :: '\x60' :: rest =>
        enclosedAt "literal" ['\x60', '\x60'] ['\x60', '\x60'] true last rest
      | '_' :: '\x60' :: rest =>
        enclosedAt "target" ['_', '\x60'] ['\x60'] false last rest
      | '|' :: '|' :: _ => none
      | '|' :: rest => enclosedAt "substitution_reference" ['|'] ['|'] false last rest
      | _ => none
    simple <|> referenceAt chars <|> backquotedAt last chars

def textNode (reversed : List Char) : List Node :=
  if reversed.isEmpty then [] else [.text (resolveEscapes reversed.reverse)]

/--
Reads nodes from a text.  `plain` holds the plain text before the present place,
reversed; `last` is the character before it, unless markup ended there.
-/
def readInline : Nat → List Char → Option Char → List Char → List Node
  | 0, plain, _, _ => textNode plain
  | _, plain, _, [] => textNode plain
  | fuel + 1, plain, last, c :: rest =>
    match markupAt last (c :: rest) with
    | none => readInline fuel (c :: plain) (some c) rest
    | some found =>
      let taken := max found.taken 1
      let after := (c :: rest).drop taken
      if found.nodes.isEmpty then
        readInline fuel (((c :: rest).take taken).reverse ++ plain) none after
      else textNode plain ++ found.nodes ++ readInline fuel [] none after

def inlineNodes (text : String) : List Node :=
  let chars := markEscapes text.toList
  readInline (chars.length + 1) [] none chars

/--
The text of a paragraph without the second of two colons that announce a literal
block.
-/
def announcedText (text : String) : String :=
  if announcesLiteral text.toList then
    let before := text.toList.dropLast
    match before.dropLast.getLast? with
    | some ' ' => Text.trimEnd (String.ofList (before.dropLast))
    | some '\n' => Text.trimEnd (String.ofList (before.dropLast))
    | _ => String.ofList before
  else text

def firstBlockNodes (text : String) : Except Failure (List Node) := do
  match ← outline text with
  | [] => .error (.outOfRange "list index out of range")
  | block :: _ =>
    if block.tag != "paragraph" then return []
    match (linesOf text).dropWhile Line.isVacant with
    | [] => return []
    | line :: rest =>
      let more := rest.takeWhile fun next => !next.isVacant && !next.isIndented
      let content := Text.trimEnd (Text.unlines ((line :: more).map Line.text))
      return inlineNodes (announcedText content)

end DocHints.Rest
