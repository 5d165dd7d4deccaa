import DocHints.Markup.Role
import DocHints.Rest.Inline
import DocHints.Source.Parser.Stmt
import DocHints.Text.Quoted

/-!
# Types as nodes

The type of an attribute is written as an expression, or as markup under a
label.  An expression becomes references to the types it names, with punctuation
between them.
-/

namespace DocHints.Rest

open Source

def markupLabel : String := "--is-rst--"

def punctuation (sign : String) : Node :=
  .classed "desc_sig_punctuation" "p" sign

def spaceNode : Node :=
  .classed "desc_sig_space" "w" " "

inductive Piece where
  | name (text : String)
  | literal (text : String)
  | node (n : Node)
  deriving Repr, Inhabited

def barPieces : List Piece :=
  [.node spaceNode, .node (punctuation "|"), .node spaceNode]

def commaPieces : List Piece :=
  [.node (punctuation ","), .node spaceNode]

def unsupported {α : Type} : Except Failure α :=
  .error (.malformed "unsupported")

def constantPieces : Constant → Except Failure (List Piece)
  | .ellipsis => .ok [.node (punctuation "...")]
  | .bool b =>
    .ok [.node (.classed "desc_sig_keyword" "k" (if b then "True" else "False"))]
  | .int n => .ok [.node (.classed "desc_sig_literal_number" "m" (toString n))]
  | .str content _ =>
    .ok [.node (.classed "desc_sig_literal_string" "s" (Text.quote content))]
  | .none => .ok [.name "None"]
  | .bytes content => .ok [.name (Text.quoteBytes content)]
  | _ => unsupported

/-- Names inside the arguments of a literal type are shown as they are. -/
def literalPieces (pieces : List Piece) : List Piece :=
  match pieces with
  | .name head :: rest =>
    if head == "Literal" || head == "typing.Literal" then
      .name head :: rest.map fun piece =>
        match piece with
        | .name text => .literal text
        | other => other
    else pieces
  | _ => pieces

mutual

def exprPieces : Expr → Except Failure (List Piece)
  | .attribute base field => do
    match ← exprPieces base with
    | .name text :: _ => return [.name (text ++ "." ++ field)]
    | _ => unsupported
  | .binary left .bitOr right =>
    do return (← exprPieces left) ++ barPieces ++ (← exprPieces right)
  | .constant c => constantPieces c
  | .unary .invert operand =>
    do return .node (punctuation "~") :: (← exprPieces operand)
  | .unary .minus operand => do return .node (punctuation "-") :: (← exprPieces operand)
  | .list items => do
    return .node (punctuation "[") :: (← joinedPieces commaPieces items)
      ++ [.node (punctuation "]")]
  | .tuple [] => return [.node (punctuation "("), .node (punctuation ")")]
  | .tuple items => joinedPieces commaPieces items
  | .name id => return [.name id]
  | .subscript (.name "Optional") index => do
    return (← memberPieces index) ++ barPieces ++ [.name "None"]
  | .subscript (.name "Union") index => memberPieces index
  | .subscript base index => do
    return literalPieces
      ((← exprPieces base) ++ .node (punctuation "[") :: (← exprPieces index)
      ++ [.node (punctuation "]")])
  | _ => unsupported

def memberPieces : Expr → Except Failure (List Piece)
  | .tuple items => joinedPieces barPieces items
  | e => exprPieces e

def joinedPieces (between : List Piece) : List Expr → Except Failure (List Piece)
  | [] => return []
  | [item] => exprPieces item
  | item :: rest =>
    do return (← exprPieces item) ++ between ++ (← joinedPieces between rest)

end

def typeReference (name : String) (short : Bool) : Node :=
  let (target, title) :=
    match Text.afterStart? "." name, Text.afterStart? "~" name with
    | some rest, _ => (rest, rest)
    | _, some rest => (rest, Text.lastPart rest)
    | none, none =>
      if short then (name, Text.lastPart name)
      else (name, (Text.afterStart? "typing." name).getD name)
  let isObject := target == "None" || Text.startsWith "typing." target
  .reference (if isObject then "obj" else "class") target [.text title]

/-- Turns names into references; a tilde before one shortens its title. -/
def pieceNodes : List Piece → List Node
  | [] => []
  | .node (.element "desc_sig_punctuation" attributes [.text "~"]) :: .name text ::
    rest =>
    if Text.isVacant text then
      .element "desc_sig_punctuation" attributes [.text "~"] :: .text text ::
        pieceNodes rest
    else typeReference text true :: pieceNodes rest
  | .name text :: rest => typeReference text false :: pieceNodes rest
  | .literal text :: rest => .text text :: pieceNodes rest
  | .node n :: rest => n :: pieceNodes rest

def sourcePieces (source : String) : Except Failure (List Piece) := do
  let pieces ← (← readModule true source).mapM fun stmt =>
    match stmt with
    | .expr e => exprPieces e
    | _ => unsupported
  return pieces.flatten

/-- The nodes of a type; what is no supported expression is one reference as a whole. -/
def typeNodes (type : String) : Except Failure (List Node) :=
  match Text.afterStart? markupLabel type with
  | some markup => firstBlockNodes markup
  | none =>
    match sourcePieces type with
    | .ok pieces => .ok (pieceNodes pieces)
    | .error _ => .ok [typeReference type false]

def attributeNodes (type : String) : Except Failure (List (List Node)) := do
  if type.isEmpty then return []
  return [[punctuation ":", spaceNode] ++ (← typeNodes type)]

def typeRoleNode (text : String) : Except Failure Node := do
  return .element "inline" { classes := ["sphinx_autodoc_typehints-type"] }
    (← firstBlockNodes (Markup.unescape text))

end DocHints.Rest
