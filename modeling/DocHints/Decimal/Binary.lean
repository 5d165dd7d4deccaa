import DocHints.Text.Cut

/-!
# Double-precision numbers

A finite number is a sign and a product `mantissa * 2 ^ exponent` with a
mantissa below `2 ^ 53` and an exponent of at least `-1074`.  Reading a decimal
rounds the exact quotient to the nearest such product, a tie going to the even
mantissa.
-/

namespace DocHints.Decimal

inductive Binary where
  | nan
  | infinite (negative : Bool)
  | finite (negative : Bool) (mantissa : Nat) (exponent : Int)
  deriving DecidableEq, Repr, Inhabited

/-- `numerator / denominator` rounded to the nearest integer, a tie to the even one. -/
def roundQuotient (numerator denominator : Nat) : Nat :=
  let quotient := numerator / denominator
  let twice := 2 * (numerator % denominator)
  if twice < denominator then quotient
  else if denominator < twice then quotient + 1
  else if quotient % 2 = 0 then quotient else quotient + 1

def roundScaled (numerator denominator : Nat) (exponent : Int) : Nat :=
  match exponent with
  | .ofNat n => roundQuotient numerator (denominator * Nat.pow 2 n)
  | .negSucc n => roundQuotient (numerator * Nat.pow 2 (n + 1)) denominator

def Binary.ofQuotient (negative : Bool) (numerator denominator : Nat) : Binary :=
  if numerator = 0 then .finite negative 0 0
  else
    let guess : Int := (numerator.log2 : Int) - denominator.log2 - 53
    let start := if guess < -1074 then -1074 else guess
    let exponent :=
      if roundScaled numerator denominator start < Nat.pow 2 53 then start
      else start + 1
    let mantissa := roundScaled numerator denominator exponent
    let (mantissa, exponent) :=
      if mantissa = Nat.pow 2 53 then (Nat.pow 2 52, exponent + 1)
      else (mantissa, exponent)
    if 971 < exponent then .infinite negative else .finite negative mantissa exponent

def Binary.ofDecimal (negative : Bool) (digits : Nat) (power : Int) : Binary :=
  let size : Int := (Nat.toDigits 10 digits).length + power
  if digits = 0 then .finite negative 0 0
  else if 400 < size then .infinite negative
  else if size < -400 then .finite negative 0 0
  else
    match power with
    | .ofNat n => .ofQuotient negative (digits * Nat.pow 10 n) 1
    | .negSucc n => .ofQuotient negative digits (Nat.pow 10 (n + 1))

def Binary.isZero : Binary → Bool
  | .finite _ mantissa _ => mantissa = 0
  | _ => false

/-- Numeric equality: the two zeros are equal, and no number equals `nan`. -/
def Binary.equal (x y : Binary) : Bool :=
  match x, y with
  | .infinite a, .infinite b => a = b
  | .finite a m e, .finite b n f =>
    if m = 0 && n = 0 then true
    else a = b && m * Nat.pow 2 (e + 1074).toNat = n * Nat.pow 2 (f + 1074).toNat
  | _, _ => false

def Binary.toInt? : Binary → Option Int
  | .finite negative mantissa exponent =>
    let signed (n : Nat) : Int := if negative then -(n : Int) else n
    match exponent with
    | .ofNat n => some (signed (mantissa * Nat.pow 2 n))
    | .negSucc n =>
      let unit := Nat.pow 2 (n + 1)
      if mantissa % unit = 0 then some (signed (mantissa / unit)) else none
  | _ => none

end DocHints.Decimal
