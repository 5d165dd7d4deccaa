import DocHints.Decimal.Binary

/-!
# Shortest decimals

The text of a number is the decimal with the fewest digits that rounds back to
it; of two such decimals the nearer one, and of two equally near the one with
the even last digit.  Numbers from `0.0001` up to `10 ^ 16` are written
positionally, the others with a power of ten of at least two digits.
-/

namespace DocHints.Decimal

/-- The power `p` with `10 ^ (p - 1) ≤ numerator / denominator < 10 ^ p`. -/
def magnitude (numerator denominator : Nat) : Int :=
  let whole := numerator / denominator
  if whole = 0 then
    let shift := (List.range 400).find? fun j => denominator ≤ numerator * Nat.pow 10 j
    1 - (shift.getD 0 : Int)
  else (Nat.toDigits 10 whole).length

/-- `2 ^ e` or `10 ^ e` for an exponent of either sign, as a fraction. -/
def powerFraction (base : Nat) (e : Int) : Nat × Nat :=
  match e with
  | .ofNat n => (Nat.pow base n, 1)
  | .negSucc n => (1, Nat.pow base (n + 1))

/--
The decimal with `count` digits nearest to `mantissa * 2 ^ exponent` among those
that round back to it, as an integer to be scaled by `10 ^ (p - count)`.  The
numbers that round to it form an interval whose ends are counted in quarters of
a unit of the mantissa; they belong to it for an even mantissa.
-/
def candidate? (mantissa : Nat) (exponent : Int) (p : Int) (count : Nat) : Option Nat :=
  let (twoTop, twoBottom) := powerFraction 2 (exponent - 2)
  let (tenTop, tenBottom) := powerFraction 10 (p - count)
  let a := twoTop * tenBottom
  let b := twoBottom * tenTop
  let below := if mantissa = Nat.pow 2 52 && -1074 < exponent then 1 else 2
  let low := (4 * mantissa - below) * a
  let high := (4 * mantissa + 2) * a
  let exact := 4 * mantissa * a
  let inside (d : Nat) : Bool :=
    if mantissa % 2 = 0 then low ≤ d * b && d * b ≤ high
    else low < d * b && d * b < high
  let floor := exact / b
  match inside floor, inside (floor + 1) with
  | true, false => some floor
  | false, true => some (floor + 1)
  | false, false => none
  | true, true =>
    let toFloor := exact - floor * b
    let toNext := (floor + 1) * b - exact
    if toFloor < toNext then some floor
    else if toNext < toFloor then some (floor + 1)
    else if floor % 2 = 0 then some floor else some (floor + 1)

/-- The digits `d₁d₂…` and the power `p` of the shortest decimal `0.d₁d₂… * 10 ^ p`. -/
def shortest (mantissa : Nat) (exponent : Int) : List Char × Int :=
  let (top, bottom) := powerFraction 2 exponent
  let p := magnitude (mantissa * top) bottom
  let found := (List.range 17).findSome? fun k =>
    (candidate? mantissa exponent p (k + 1)).map (k + 1, ·)
  match found with
  | some (count, digits) =>
    let chars := Nat.toDigits 10 digits
    let p := if count < chars.length then p + 1 else p
    (Text.dropEndWhile (· == '0') chars, p)
  | none => ([], p)

structure Layout where
  leastPower : Int
  mostPower : Int
  exponentWidth : Nat

/-- Positional from `0.0001` up to sixteen digits before the point. -/
def layout : Layout := ⟨-3, 16, 2⟩

def positional (digits : List Char) (p : Int) : List Char :=
  match p with
  | .negSucc n => '0' :: '.' :: List.replicate (n + 1) '0' ++ digits
  | .ofNat 0 => '0' :: '.' :: digits
  | .ofNat n =>
    if digits.length ≤ n then digits ++ List.replicate (n - digits.length) '0'
      ++ ['.', '0']
    else digits.take n ++ '.' :: digits.drop n

def scientific (width : Nat) (digits : List Char) (p : Int) : List Char :=
  let power := p - 1
  let size := Nat.toDigits 10 power.natAbs
  let padded := List.replicate (width - size.length) '0' ++ size
  let lead :=
    match digits with
    | [d] => [d]
    | d :: rest => d :: '.' :: rest
    | [] => ['0']
  lead ++ 'e' :: (if power < 0 then '-' else '+') :: padded

def Binary.text : Binary → String
  | .nan => "nan"
  | .infinite negative => if negative then "-inf" else "inf"
  | .finite negative mantissa exponent =>
    let (digits, p) := if mantissa = 0 then (['0'], 1) else shortest mantissa exponent
    let body :=
      if layout.leastPower ≤ p && p ≤ layout.mostPower then positional digits p
      else scientific layout.exponentWidth digits p
    String.ofList (if negative then '-' :: body else body)

end DocHints.Decimal
