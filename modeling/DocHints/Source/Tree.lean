import DocHints.Decimal.Binary

/-!
# Source trees

Expressions, patterns and statements of a source file, in the grammar of version
3.11: there is no statement that declares a type and no definition has type
parameters.  A tree keeps what its printed form and its meaning need: brackets,
blanks and comments are gone, apart from the comments that give a type.
-/

namespace DocHints.Source

open Decimal (Binary)

inductive Constant where
  | none
  | bool (b : Bool)
  | ellipsis
  | int (n : Nat)
  | float (x : Binary)
  | imaginary (x : Binary)
  /-- `marked` tells that the text was written with the mark for plain text. -/
  | str (content : String) (marked : Bool)
  | bytes (content : List UInt8)
  /-- A text with embedded expressions, as written. -/
  | template (written : String)
  deriving DecidableEq, Repr, Inhabited

inductive BinaryOp where
  | bitOr | bitXor | bitAnd | shiftLeft | shiftRight
  | add | sub | mul | matMul | div | floorDiv | mod | pow
  deriving DecidableEq, Repr, Inhabited

inductive UnaryOp where
  | invert | negation | plus | minus
  deriving DecidableEq, Repr, Inhabited

inductive BoolOp where
  | and | or
  deriving DecidableEq, Repr, Inhabited

inductive CompareOp where
  | eq | notEq | lt | ltE | gt | gtE | same | notSame | member | notMember
  deriving DecidableEq, Repr, Inhabited

inductive ParamKind where
  | positionalOnly
  | standard
  | variadic
  | keywordOnly
  | keywords
  deriving DecidableEq, Repr, Inhabited

structure Parameter (α : Type) where
  name : String
  kind : ParamKind
  annotation : Option α
  default : Option α
  typeComment : Option String
  deriving Repr, Inhabited

structure Clause (α : Type) where
  isAsync : Bool
  target : α
  source : α
  conditions : List α
  deriving Repr, Inhabited

inductive Expr where
  | name (id : String)
  | constant (c : Constant)
  | attribute (base : Expr) (field : String)
  | subscript (base : Expr) (index : Expr)
  | call (f : Expr) (args : List Expr) (keywords : List (Option String × Expr))
  | tuple (items : List Expr)
  | list (items : List Expr)
  | set (items : List Expr)
  | dict (entries : List (Option Expr × Expr))
  | starred (e : Expr)
  | binary (left : Expr) (op : BinaryOp) (right : Expr)
  | unary (op : UnaryOp) (operand : Expr)
  | boolean (op : BoolOp) (operands : List Expr)
  | compare (left : Expr) (rest : List (CompareOp × Expr))
  | conditional (test body orElse : Expr)
  | lambda (line : Nat) (params : List (Parameter Expr)) (body : Expr)
  | slice (lower upper step : Option Expr)
  | named (target value : Expr)
  | await (e : Expr)
  | yield (e : Option Expr)
  | yieldFrom (e : Expr)
  | listComp (element : Expr) (clauses : List (Clause Expr))
  | setComp (element : Expr) (clauses : List (Clause Expr))
  | generator (element : Expr) (clauses : List (Clause Expr))
  | dictComp (key value : Expr) (clauses : List (Clause Expr))
  deriving Repr, Inhabited

/-- What the subject of a `match` statement is held against. -/
inductive Pattern where
  /-- A value that the subject has to equal. -/
  | value (e : Expr)
  /-- A constant that the subject has to be. -/
  | singleton (c : Constant)
  | capture (name : Option String)
  | bound (pattern : Pattern) (name : String)
  | oneOf (patterns : List Pattern)
  | sequence (patterns : List Pattern)
  /-- In a sequence, all items that no other pattern of it takes. -/
  | others (name : Option String)
  | mapping (entries : List (Expr × Pattern)) (rest : Option String)
  /-- The fields of an instance, by position or by name. -/
  | instanceOf (cls : Expr) (fields : List (Option String × Pattern))
  deriving Repr, Inhabited

/--
The lines of a definition: the first decorator's or the definition's own, and
the last one.
-/
structure Span where
  first : Nat
  definition : Nat
  last : Nat
  deriving DecidableEq, Repr, Inhabited

structure FunctionHead where
  name : String
  isAsync : Bool
  params : List (Parameter Expr)
  returns : Option Expr
  decorators : List Expr
  typeComment : Option String
  span : Span
  deriving Repr, Inhabited

structure ClassHead where
  name : String
  bases : List Expr
  keywords : List (Option String × Expr)
  decorators : List Expr
  span : Span
  deriving Repr, Inhabited

structure ImportName where
  name : String
  bound : Option String
  deriving DecidableEq, Repr, Inhabited

inductive Stmt where
  | function (head : FunctionHead) (body : List Stmt)
  | classDef (head : ClassHead) (body : List Stmt)
  | expr (e : Expr)
  | assign (targets : List Expr) (value : Expr) (typeComment : Option String)
  | augAssign (target : Expr) (op : BinaryOp) (value : Expr)
  | annAssign (target annotation : Expr) (value : Option Expr)
  | giveBack (value : Option Expr)
  | raise (error cause : Option Expr)
  | insist (test : Expr) (message : Option Expr)
  | delete (targets : List Expr)
  | importModules (names : List ImportName)
  | importFrom (module : Option String) (names : List ImportName) (level : Nat)
  | globals (names : List String)
  | nonlocals (names : List String)
  | pass
  | breakLoop
  | continueLoop
  | branch (test : Expr) (body orElse : List Stmt)
  | whileLoop (test : Expr) (body orElse : List Stmt)
  | forLoop (isAsync : Bool) (target source : Expr) (body orElse : List Stmt)
  | withBlock (isAsync : Bool) (items : List (Expr × Option Expr)) (body : List Stmt)
  | attempt (body : List Stmt)
      (handlers : List (Option Expr × Option String × List Stmt))
      (orElse final : List Stmt)
  | choose (subject : Expr) (cases : List (Pattern × Option Expr × List Stmt))
  deriving Repr, Inhabited

end DocHints.Source
