import DocHints.Decimal.Shortest
import DocHints.Source.Tree
import DocHints.Text.Quoted

/-!
# Printing expressions

The text of an expression has one space after a comma and around a binary
operator, single quotes where they need no escape, and only those brackets that
its reading needs.  A child is printed for the binding strength that its place
demands, and is bracketed if its own is weaker.
-/

namespace DocHints.Source

structure Strength where
  level : Nat
  deriving DecidableEq, Repr

namespace Strength

def named : Strength := ⟨0⟩
def tuple : Strength := ⟨1⟩
def yield : Strength := ⟨2⟩
def test : Strength := ⟨3⟩
def or : Strength := ⟨4⟩
def and : Strength := ⟨5⟩
def not : Strength := ⟨6⟩
def comparison : Strength := ⟨7⟩
def bitOr : Strength := ⟨8⟩
def bitXor : Strength := ⟨9⟩
def bitAnd : Strength := ⟨10⟩
def shift : Strength := ⟨11⟩
def sum : Strength := ⟨12⟩
def product : Strength := ⟨13⟩
def factor : Strength := ⟨14⟩
def power : Strength := ⟨15⟩
def await : Strength := ⟨16⟩
def atom : Strength := ⟨17⟩

/-- The next stronger one; there is none beyond a name. -/
def next (s : Strength) : Strength :=
  ⟨min (s.level + 1) 17⟩

end Strength

def BinaryOp.text : BinaryOp → String
  | .bitOr => "|"
  | .bitXor => "^"
  | .bitAnd => "&"
  | .shiftLeft => "<<"
  | .shiftRight => ">>"
  | .add => "+"
  | .sub => "-"
  | .mul => "*"
  | .matMul => "@"
  | .div => "/"
  | .floorDiv => "//"
  | .mod => "%"
  | .pow => "**"

def BinaryOp.strength : BinaryOp → Strength
  | .bitOr => .bitOr
  | .bitXor => .bitXor
  | .bitAnd => .bitAnd
  | .shiftLeft => .shift
  | .shiftRight => .shift
  | .add => .sum
  | .sub => .sum
  | .pow => .power
  | _ => .product

def UnaryOp.text : UnaryOp → String
  | .invert => "~"
  | .negation => "not "
  | .plus => "+"
  | .minus => "-"

def UnaryOp.strength : UnaryOp → Strength
  | .negation => .not
  | _ => .factor

def BoolOp.text : BoolOp → String
  | .and => "and"
  | .or => "or"

def BoolOp.strength : BoolOp → Strength
  | .and => .and
  | .or => .or

def CompareOp.text : CompareOp → String
  | .eq => "=="
  | .notEq => "!="
  | .lt => "<"
  | .ltE => "<="
  | .gt => ">"
  | .gtE => ">="
  | .same => "is"
  | .notSame => "is not"
  | .member => "in"
  | .notMember => "not in"

/-- A literal that overflows stands for an infinity. -/
def floatText (x : Decimal.Binary) : String :=
  Text.replaceAll "inf" "1e309" x.text

/-- An imaginary number has no fraction that is zero. -/
def imaginaryText (x : Decimal.Binary) : String :=
  let text := floatText x
  (Text.beforeEnd? ".0" text).getD text ++ "j"

def Constant.text : Constant → String
  | .none => "None"
  | .bool b => if b then "True" else "False"
  | .ellipsis => "..."
  | .int n => toString n
  | .float x => floatText x
  | .imaginary x => imaginaryText x
  | .str content marked => (if marked then "u" else "") ++ Text.quote content
  | .bytes content => Text.quoteBytes content
  | .template written => written

inductive ChainStyle where
  /-- Each operand binds stronger than the one before it. -/
  | rising
  /-- All operands bind stronger than the chain. -/
  | level
  deriving DecidableEq, Repr

def bracketIf (condition : Bool) (text : String) : String :=
  if condition then "(" ++ text ++ ")" else text

def isIntConstant : Expr → Bool
  | .constant (.int _) => true
  | .constant (.bool _) => true
  | _ => false

/-- Items between commas; a single item has a comma of its own. -/
def tupleText : List String → String
  | [item] => item ++ ","
  | items => Text.join ", " items

/--
Parameters as they are declared, from their texts: a slash ends those by
position only and a star stands before those by name only where no parameter
takes all further arguments.
-/
def paramTexts (params : List (ParamKind × String)) : List String :=
  let ofKind (kind : ParamKind) := (params.filter (·.1 == kind)).map (·.2)
  let positionalOnly := ofKind .positionalOnly
  let variadic := ofKind .variadic
  let keywordOnly := ofKind .keywordOnly
  positionalOnly ++ (if positionalOnly.isEmpty then [] else ["/"]) ++ ofKind .standard
    ++ (if variadic.isEmpty && !keywordOnly.isEmpty then ["*"]
      else variadic.map ("*" ++ ·))
    ++ keywordOnly ++ (ofKind .keywords).map ("**" ++ ·)

mutual

def Expr.printAt (style : ChainStyle) (at_ : Strength) : Expr → String
  | .name id => id
  | .constant c => c.text
  | .attribute base field =>
    base.printAt style .atom ++ (if isIntConstant base then " ." else ".") ++ field
  | .subscript base index =>
    base.printAt style .atom ++ "[" ++ printIndex style index ++ "]"
  | .call f args keywords =>
    f.printAt style .atom ++ "("
      ++ Text.join ", " (printAll style .test args ++ printKeywords style keywords)
        ++ ")"
  | .tuple items =>
    bracketIf (items.isEmpty || Strength.tuple.level < at_.level)
      (tupleText (printAll style .test items))
  | .list items => "[" ++ Text.join ", " (printAll style .test items) ++ "]"
  | .set items => "\x7b" ++ Text.join ", " (printAll style .test items) ++ "\x7d"
  | .dict entries => "\x7b" ++ Text.join ", " (printEntries style entries) ++ "\x7d"
  | .starred e => "*" ++ e.printAt style .bitOr
  | .binary left op right =>
    let own := op.strength
    let (leftAt, rightAt) := if op == .pow then (own.next, own) else (own, own.next)
    bracketIf (own.level < at_.level)
      (left.printAt style leftAt ++ " " ++ op.text ++ " " ++
        right.printAt style rightAt)
  | .unary op operand =>
    bracketIf (op.strength.level < at_.level)
      (op.text ++ operand.printAt style op.strength)
  | .boolean op operands =>
    bracketIf (op.strength.level < at_.level)
      (Text.join (" " ++ op.text ++ " ") (printChain style op.strength.next operands))
  | .compare left rest =>
    bracketIf (Strength.comparison.level < at_.level)
      (left.printAt style .bitOr ++ printComparisons style rest)
  | .conditional test body orElse =>
    bracketIf (Strength.test.level < at_.level)
      (body.printAt style .or ++ " if " ++ test.printAt style .or ++ " else "
        ++ orElse.printAt style .test)
  | .lambda _ params body =>
    let shown := paramTexts (printParams style params)
    bracketIf (Strength.test.level < at_.level)
      ("lambda" ++ (if shown.isEmpty then "" else " " ++ Text.join ", " shown) ++ ": "
        ++ body.printAt style .test)
  | .slice lower upper step =>
    printOption style lower ++ ":" ++ printOption style upper
      ++ (if step.isSome then ":" ++ printOption style step else "")
  | .named target value =>
    bracketIf (Strength.named.level < at_.level)
      (target.printAt style .atom ++ " := " ++ value.printAt style .atom)
  | .await e =>
    bracketIf (Strength.await.level < at_.level) ("await " ++ e.printAt style .atom)
  | .yield none => bracketIf (Strength.yield.level < at_.level) "yield"
  | .yield (some e) =>
    bracketIf (Strength.yield.level < at_.level) ("yield " ++ e.printAt style .atom)
  | .yieldFrom e =>
    bracketIf (Strength.yield.level < at_.level)
      ("yield from " ++ e.printAt style .atom)
  | .listComp element clauses =>
    "[" ++ element.printAt style .test ++ printClauses style clauses ++ "]"
  | .setComp element clauses =>
    "\x7b" ++ element.printAt style .test ++ printClauses style clauses ++ "\x7d"
  | .generator element clauses =>
    "(" ++ element.printAt style .test ++ printClauses style clauses ++ ")"
  | .dictComp key value clauses =>
    "\x7b" ++ key.printAt style .test ++ ": " ++ value.printAt style .test
      ++ printClauses style clauses ++ "\x7d"

def printAll (style : ChainStyle) (at_ : Strength) : List Expr → List String
  | [] => []
  | e :: rest => e.printAt style at_ :: printAll style at_ rest

/-- The items of an index need no brackets unless there are none. -/
def printIndex (style : ChainStyle) : Expr → String
  | .tuple [] => "()"
  | .tuple items => tupleText (printAll style .test items)
  | e => e.printAt style .test

def printOption (style : ChainStyle) : Option Expr → String
  | none => ""
  | some e => e.printAt style .test

def printKeywords (style : ChainStyle) : List (Option String × Expr) → List String
  | [] => []
  | (none, e) :: rest => ("**" ++ e.printAt style .test) :: printKeywords style rest
  | (some name, e) :: rest =>
    (name ++ "=" ++ e.printAt style .test) :: printKeywords style rest

def printEntries (style : ChainStyle) : List (Option Expr × Expr) → List String
  | [] => []
  | (none, e) :: rest => ("**" ++ e.printAt style .bitOr) :: printEntries style rest
  | (some key, e) :: rest =>
    (key.printAt style .test ++ ": " ++ e.printAt style .test) ::
      printEntries style rest

def printChain (style : ChainStyle) (at_ : Strength) : List Expr → List String
  | [] => []
  | e :: rest =>
    e.printAt style at_ :: printChain style
      (if style == .rising then at_.next else at_) rest

def printComparisons (style : ChainStyle) : List (CompareOp × Expr) → String
  | [] => ""
  | (op, e) :: rest =>
    " " ++ op.text ++ " " ++ e.printAt style .bitOr ++ printComparisons style rest

def printParams (style : ChainStyle) : List (Parameter Expr) → List (ParamKind × String)
  | [] => []
  | ⟨name, kind, _, default, _⟩ :: rest =>
    (kind, name ++ (if default.isSome then "=" else "") ++ printOption style default)
      :: printParams style rest

def printClauses (style : ChainStyle) : List (Clause Expr) → String
  | [] => ""
  | ⟨isAsync, target, source, conditions⟩ :: rest =>
    (if isAsync then " async for " else " for ") ++ target.printAt style .tuple ++
      " in "
      ++ source.printAt style .or ++ printConditions style conditions
        ++ printClauses style rest

def printConditions (style : ChainStyle) : List Expr → String
  | [] => ""
  | e :: rest => " if " ++ e.printAt style .or ++ printConditions style rest

end

def Expr.print (e : Expr) : String :=
  e.printAt .rising .test

def Expr.printKept (e : Expr) : String :=
  e.printAt .level .test

end DocHints.Source
