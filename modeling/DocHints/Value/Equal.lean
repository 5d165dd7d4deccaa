import DocHints.Value.Basic

/-!
# Equality of values

Values are equal by what they are made of.  Numbers are equal across their
kinds, unions and literals do not depend on the order of their members, and a
stand-in for a named type equals its name.  A value that can change after it was
made has no hash, and cannot be a member of a set.
-/

namespace DocHints

namespace Value

def integer? : Value → Option Int
  | .bool b => some (if b then 1 else 0)
  | .int n => some n
  | .float x => x.toInt?
  | _ => Option.none

inductive DataKind where
  | none | bool | int | float | str | bytes | other
  deriving DecidableEq, Repr

def dataKind : Value → DataKind
  | .none => .none
  | .bool _ => .bool
  | .int _ => .int
  | .float _ => .float
  | .str _ => .str
  | .bytes _ => .bytes
  | _ => .other

def numbersEqual (a b : Value) : Bool :=
  match a, b with
  | .float x, .float y => x.equal y
  | _, _ =>
    match a.integer?, b.integer? with
    | some m, some n => m = n
    | _, _ => false

def membersOf? : Value → Option (List Value)
  | .union members => some members
  | .bars members => some members
  | _ => Option.none

mutual

def equal : Value → Value → Bool
  | .none, b => (b matches .none)
  | .ellipsis, b => (b matches .ellipsis)
  | .notImplemented, b => (b matches .notImplemented)
  | .bool a, b => numbersEqual (.bool a) b
  | .int a, b => numbersEqual (.int a) b
  | .float a, b => numbersEqual (.float a) b
  | .str a, .str b => a = b
  | .str a, .aliasName b _ => a = b
  | .bytes a, .bytes b => a = b
  | .list as, .list bs => equalLists as bs
  | .tuple as, .tuple bs => equalLists as bs
  | .dict as, .dict bs => as.length = bs.length && entriesWithin as bs
  | .member c a _, .member d b _ => c = d && a = b
  | .cls a, .cls b => a = b
  | .routine _ m a, .routine _ n b => m = n && a = b
  | .form a, .form b => a = b
  | .applied h as, .applied k bs => equal h k && equalLists as bs
  | .indexed c as, .indexed d bs => c = d && equalLists as bs
  | .union as, b =>
    match b.membersOf? with
    | some bs => within as bs && covers as bs
    | Option.none => false
  | .bars as, b =>
    match b.membersOf? with
    | some bs => within as bs && covers as bs
    | Option.none => false
  | .literal as, .literal bs => literalsWithin as bs && literalsCover as bs
  | .annotated a as, .annotated b bs => equal a b && equalLists as bs
  | .typeVar a _ _, .typeVar b _ _ => a = b
  | .paramSpec a _, .paramSpec b _ => a = b
  | .paramArgs a, .paramArgs b => a = b
  | .paramKwargs a, .paramKwargs b => a = b
  | .newType m a x, .newType n b y => m = n && a = b && equal x y
  | .forwardRef a, .forwardRef b => a = b
  | .aliasName a _, .aliasName b _ => a = b
  | .aliasName a _, .str b => a = b
  | .typeAlias a, .typeAlias b => a = b
  | .doc a, .doc b => a = b
  | .module a, .module b => a = b
  | .object a, .object b => a.serial = b.serial
  | _, _ => false

def equalLists : List Value → List Value → Bool
  | [], [] => true
  | a :: as, b :: bs => equal a b && equalLists as bs
  | _, _ => false

def within : List Value → List Value → Bool
  | [], _ => true
  | a :: as, bs => bs.any (equal a) && within as bs

def hasEqual : List Value → Value → Bool
  | [], _ => false
  | a :: as, b => equal a b || hasEqual as b

def covers (as bs : List Value) : Bool :=
  bs.all (hasEqual as)

def literalsWithin : List Value → List Value → Bool
  | [], _ => true
  | a :: as, bs =>
    bs.any (fun b => a.dataKind = b.dataKind && equal a b) && literalsWithin as bs

def hasLiteral : List Value → Value → Bool
  | [], _ => false
  | a :: as, b => (a.dataKind = b.dataKind && equal a b) || hasLiteral as b

def literalsCover (as bs : List Value) : Bool :=
  bs.all (hasLiteral as)

def entriesWithin : List (Value × Value) → List (Value × Value) → Bool
  | [], _ => true
  | (key, item) :: as, bs =>
    bs.any (fun entry => equal key entry.1 && equal item entry.2) && entriesWithin as bs

end

mutual

def hashable : Value → Bool
  | .list _ => false
  | .dict _ => false
  | .tuple items => allHashable items
  | .applied head args => hashable head && allHashable args
  | .indexed _ args => allHashable args
  | .union members => allHashable members
  | .bars members => allHashable members
  | .literal values => allHashable values
  | .annotated base metadata => hashable base && allHashable metadata
  | _ => true

def allHashable : List Value → Bool
  | [] => true
  | item :: rest => hashable item && allHashable rest

end

/-- Keeps the first of the values that are equal. -/
def distinct (same : Value → Value → Bool) : List Value → List Value
  | [] => []
  | v :: rest => v :: (distinct same rest).filter fun w => !same v w

def sameLiteral (a b : Value) : Bool :=
  a.dataKind = b.dataKind && equal a b

end Value

end DocHints
