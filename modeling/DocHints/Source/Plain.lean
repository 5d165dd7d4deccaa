import DocHints.Source.Printer
import DocHints.Value.Display

/-!
# Plain texts of expressions

A plain text shows the parts of an expression one after another and has no
brackets for binding strengths.  Only the expressions that occur in annotations
and defaults have one.
-/

namespace DocHints.Source

def Constant.plain? : Constant → Option String
  | .none => some "None"
  | .bool b => some (if b then "True" else "False")
  | .ellipsis => some "..."
  | .int n => some (toString n)
  | .float x => some x.text
  | .imaginary x => some ((Text.beforeEnd? ".0" x.text).getD x.text ++ "j")
  | .str content _ => some (Text.quote content)
  | .bytes content => some (Text.quoteBytes content)
  | .template _ => Option.none

def braced (items : List String) : String :=
  "\x7b" ++ Text.join ", " items ++ "\x7d"

def paramText (name : String) (hint default : Option String) : String :=
  name ++ ((hint.map (": " ++ ·)).getD "")
    ++ (match hint, default with
        | _, none => ""
        | some _, some text => " = " ++ text
        | none, some text => "=" ++ text)

mutual

def Expr.plain? : Expr → Option String
  | .name id => some id
  | .constant c => c.plain?
  | .attribute base field => do return (← base.plain?) ++ "." ++ field
  | .subscript base index =>
    do return (← base.plain?) ++ "[" ++ (← plainIndex? index) ++ "]"
  | .call f args keywords => do
    let args ← plainAll? args
    let keywords ← plainKeywords? keywords
    return (← f.plain?) ++ "(" ++ Text.join ", " (args ++ keywords) ++ ")"
  | .tuple items => do
    match ← plainAll? items with
    | [single] => return "(" ++ single ++ ",)"
    | texts => return "(" ++ Text.join ", " texts ++ ")"
  | .list items => do return "[" ++ Text.join ", " (← plainAll? items) ++ "]"
  | .set items => do return braced (← plainAll? items)
  | .dict entries => do
    let keys ← plainKeys? entries
    let values ← plainValues? entries
    return braced ((keys.zip values).map fun (key, value) => key ++ ": " ++ value)
  | .binary left op right => do
    let space := if op == .pow then "" else " "
    return (← left.plain?) ++ space ++ op.text ++ space ++ (← right.plain?)
  | .unary op operand => do return op.text ++ (← operand.plain?)
  | .boolean op operands =>
    do return Text.join (" " ++ op.text ++ " ") (← plainAll? operands)
  | .lambda _ params _ => do
    return "lambda " ++ Text.join ", " (paramTexts (← plainParams? params)) ++ ": ..."
  | .slice lower upper step => do
    let bounds :=
      (← plainOption? lower).getD "" ++ ":" ++ (← plainOption? upper).getD ""
    match ← plainOption? step with
    | some text => return bounds ++ ":" ++ text
    | none => return bounds
  | _ => none

def plainAll? : List Expr → Option (List String)
  | [] => some []
  | e :: rest => do
    let text ← e.plain?
    return text :: (← plainAll? rest)

def plainIndex? : Expr → Option String
  | .tuple items => do
    let texts ← plainAll? items
    return if items.isEmpty then "()" else Text.join ", " texts
  | e => e.plain?

def plainOption? : Option Expr → Option (Option String)
  | none => some none
  | some e => do return some (← e.plain?)

def plainKeywords? : List (Option String × Expr) → Option (List String)
  | [] => some []
  | (name, e) :: rest => do
    let text := name.getD "None" ++ "=" ++ (← e.plain?)
    return text :: (← plainKeywords? rest)

/-- The keys of a dictionary; entries without one are passed over. -/
def plainKeys? : List (Option Expr × Expr) → Option (List String)
  | [] => some []
  | (none, _) :: rest => plainKeys? rest
  | (some key, _) :: rest => do
    let text ← key.plain?
    return text :: (← plainKeys? rest)

def plainValues? : List (Option Expr × Expr) → Option (List String)
  | [] => some []
  | (_, e) :: rest => do
    let text ← e.plain?
    return text :: (← plainValues? rest)

def plainParams? : List (Parameter Expr) → Option (List (ParamKind × String))
  | [] => some []
  | ⟨name, kind, hint, default, _⟩ :: rest => do
    let text := paramText name (← plainOption? hint) (← plainOption? default)
    return (kind, text) :: (← plainParams? rest)

end

end DocHints.Source
