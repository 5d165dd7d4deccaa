import DocHints.Decimal.Binary

/-!
# Reading numbers

A decimal is digits with an optional point and an optional power of ten;
underscores may stand between digits.
-/

namespace DocHints.Decimal

def digitValue (c : Char) : Nat :=
  c.toNat - '0'.toNat

def ofDigits (base : Nat) (valueOf : Char → Nat) (chars : List Char) : Nat :=
  chars.foldl (fun total c => total * base + valueOf c) 0

/-- Every underscore of a run stands between two digits. -/
def wellSpaced : List Char → Bool
  | [] => false
  | [c] => c != '_'
  | c :: d :: rest => !(c == '_' && d == '_') && wellSpaced (d :: rest)

/--
Reads digits, an underscore being allowed between two of them; `none` if there
is no digit.
-/
def readDigits? (chars : List Char) : Option (List Char × List Char) :=
  let run := chars.takeWhile fun c => c.isDigit || c == '_'
  match run with
  | [] => none
  | c :: _ =>
    if c != '_' && wellSpaced run then
      some (run.filter (· != '_'), chars.drop run.length)
    else none

def readDigits (chars : List Char) : List Char × List Char :=
  (readDigits? chars).getD ([], chars)

def readExponent (chars : List Char) : Option (Int × List Char) :=
  match chars with
  | e :: rest =>
    if e = 'e' || e = 'E' then
      let (negative, body) :=
        match rest with
        | '-' :: body => (true, body)
        | '+' :: body => (false, body)
        | _ => (false, rest)
      match readDigits? body with
      | some (digits, after) =>
        let size : Int := ofDigits 10 digitValue digits
        some (if negative then -size else size, after)
      | none => none
    else some (0, chars)
  | [] => some (0, [])

def readUnsigned? (negative : Bool) (chars : List Char) : Option Binary :=
  let (whole, rest) := readDigits chars
  let (fraction, rest) :=
    match rest with
    | '.' :: more => readDigits more
    | _ => ([], rest)
  if whole.isEmpty && fraction.isEmpty then none
  else
    match readExponent rest with
    | some (power, []) =>
      some (.ofDecimal negative (ofDigits 10 digitValue (whole ++ fraction))
        (power - fraction.length))
    | _ => none

def Binary.ofText? (text : String) : Option Binary :=
  let chars := Text.dropEndsWhile Text.isBlank text.toList
  let (negative, body) :=
    match chars with
    | '-' :: body => (true, body)
    | '+' :: body => (false, body)
    | _ => (false, chars)
  let name := String.ofList (body.map Char.toLower)
  if name = "inf" || name = "infinity" then some (.infinite negative)
  else if name = "nan" then some .nan
  else readUnsigned? negative body

end DocHints.Decimal
