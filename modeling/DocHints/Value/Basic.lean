import DocHints.Decimal.Binary

/-!
# Values

What an annotation, a default or a literal can be.  Plain data and the
vocabulary of types share one universe, because a type may hold data (a literal,
a piece of metadata) and data may hold types (a list of them given as an
annotation).

Facts that never change are part of the value.  What a running program can
change, such as the contents of a module, is held elsewhere and reached through
a `Handle`.
-/

namespace DocHints

open Decimal (Binary)

/--
How a class came to be: classes of one name and different origins are different
classes.
-/
inductive Origin where
  /-- Part of the standard library. -/
  | library
  /-- Known by its module and its name alone. -/
  | declared
  /-- An enumeration known by its module, its name and its members. -/
  | enumerated (members : List String)
  /-- Made by running a class definition. -/
  | defined (serial : Nat)
  deriving DecidableEq, Repr, Inhabited

/-- `plain` tells that the class is an instance of the ordinary class of classes. -/
structure ClassRef where
  module : String
  qualname : String
  origin : Origin
  plain : Bool
  deriving DecidableEq, Repr, Inhabited

structure Form where
  module : String
  name : String
  deriving DecidableEq, Repr, Inhabited

inductive Variance where
  | invariant
  | covariant
  | contravariant
  deriving DecidableEq, Repr, Inhabited

structure Variable where
  module : String
  name : String
  serial : Nat
  variance : Variance
  deriving DecidableEq, Repr, Inhabited

inductive Routine where
  | builtin
  | scripted
  deriving DecidableEq, Repr, Inhabited

/-- A named alias; what it stands for is found under `key` in an alias table. -/
structure AliasRef where
  key : String
  module : String
  name : String
  deriving DecidableEq, Repr, Inhabited

inductive ObjectKind where
  | function
  | method
  | property
  | classMethod
  | staticMethod
  | slot
  | partialCall
  | instanceOf
  deriving DecidableEq, Repr, Inhabited

structure Handle where
  serial : Nat
  kind : ObjectKind
  module : String
  qualname : String
  deriving DecidableEq, Repr, Inhabited

inductive Value where
  | none
  | ellipsis
  | notImplemented
  | bool (b : Bool)
  | int (n : Int)
  | float (x : Binary)
  | str (s : String)
  | bytes (bytes : List UInt8)
  | list (items : List Value)
  | tuple (items : List Value)
  | dict (entries : List (Value × Value))
  /-- An object known only by the text it shows. -/
  | shown (text : String)
  /-- A member of an enumeration. -/
  | member (owner : ClassRef) (name : String) (value : Value)
  | cls (c : ClassRef)
  | routine (kind : Routine) (module qualname : String)
  | form (f : Form)
  /-- A construct or a generic class with arguments, checked by the type vocabulary. -/
  | applied (head : Value) (args : List Value)
  /-- A class with arguments that are kept as they are. -/
  | indexed (c : ClassRef) (args : List Value)
  | union (members : List Value)
  /-- A union written with bars between classes. -/
  | bars (members : List Value)
  | literal (values : List Value)
  | annotated (base : Value) (metadata : List Value)
  | typeVar (v : Variable) (bound : Option Value) (constraints : List Value)
  | paramSpec (v : Variable) (bound : Option Value)
  | paramArgs (v : Variable)
  | paramKwargs (v : Variable)
  | newType (module name : String) (base : Value)
  /-- A type known by its text, which has not been looked up. -/
  | forwardRef (text : String)
  /--
  A stand-in for a named type; `crossref` is absent for the basic kind of
  stand-in.
  -/
  | aliasName (name : String) (crossref : Option Bool)
  | typeAlias (a : AliasRef)
  | instanceOf (owner : ClassRef) (attributes : List (String × Value))
  | doc (text : String)
  | module (name : String)
  | object (h : Handle)
  deriving Inhabited, Repr

namespace Value

def noneClass : ClassRef := ⟨"builtins", "NoneType", .library, true⟩

def noneType : Value := .cls noneClass

def isNoneType : Value → Bool
  | .cls c => c = noneClass
  | _ => false

def isNone : Value → Bool
  | .none => true
  | _ => false

end Value

def ClassRef.name (c : ClassRef) : String :=
  Text.lastPart c.qualname

def ClassRef.path (c : ClassRef) : String :=
  if c.module = "builtins" then c.qualname else c.module ++ "." ++ c.qualname

def ClassRef.isEnumeration (c : ClassRef) : Bool :=
  match c.origin with
  | .enumerated _ => true
  | _ => false

end DocHints
