/-!
# Double-precision numbers

Numbers with a fraction or an exponent are double-precision numbers. They are kept exactly, as a
mantissa times a power of two.

* `Binary64`: a finite number, an infinity, or not a number;
* `Binary64.ofRatio`: the number nearest to a quotient, a tie going to the even mantissa;
* `Binary64.ofDecimal`: the number nearest to a decimal;
* `Binary64.toInt?`: the integer that a whole number is equal to;
* `Binary64.floor`: the whole part of a positive number.
-/

namespace Externs

set_option autoImplicit false

/-- A double-precision number. A finite one is `mantissa * 2 ^ exponent` with a sign, where the
mantissa is below `2 ^ 53`, and below `2 ^ 52` only with the least exponent, -1074. -/
inductive Binary64 where
  | finite (negative : Bool) (mantissa : Nat) (exponent : Int)
  | infinite (negative : Bool)
  | nan
  deriving DecidableEq, Inhabited

namespace Binary64

/-- The least exponent of a finite number. -/
def leastExponent : Int := -1074

/-- The greatest exponent of a finite number. -/
def greatestExponent : Int := 971

/-- The zero of the given sign. -/
def signedZero (negative : Bool) : Binary64 := .finite negative 0 leastExponent

/-- The quotient rounded to the nearest natural number, a tie going to the even one. -/
def roundQuotient (num den : Nat) : Nat :=
  let quotient := num / den
  let twice := 2 * (num % den)
  if twice < den then quotient
  else if den < twice then quotient + 1
  else if quotient % 2 = 0 then quotient
  else quotient + 1

/-- The number nearest to `num / den`, for a positive `den`. -/
def ofRatio (negative : Bool) (num den : Nat) : Binary64 :=
  if num = 0 then signedZero negative
  else
    let guess : Int := (Nat.log2 num : Int) - Nat.log2 den - 52
    let up (e : Int) : Nat := num * Nat.pow 2 (-e).toNat
    let down (e : Int) : Nat := den * Nat.pow 2 e.toNat
    let normal := if up guess < Nat.pow 2 52 * down guess then guess - 1 else guess
    let exponent := max normal leastExponent
    let mantissa := roundQuotient (up exponent) (down exponent)
    let (mantissa, exponent) :=
      if mantissa = Nat.pow 2 53 then (Nat.pow 2 52, exponent + 1) else (mantissa, exponent)
    if greatestExponent < exponent then .infinite negative
    else .finite negative mantissa exponent

/-- The number nearest to `digits * 10 ^ exponent`. Decimals of a size beyond `10 ^ 400` or below
`10 ^ -400` are not computed: the former are infinite, the latter zero. -/
def ofDecimal (negative : Bool) (digits : Nat) (exponent : Int) : Binary64 :=
  let size := (Nat.toDigits 10 digits).length + exponent
  if digits = 0 ∨ size < -400 then signedZero negative
  else if 400 < size then .infinite negative
  else ofRatio negative (digits * Nat.pow 10 exponent.toNat) (Nat.pow 10 (-exponent).toNat)

/-- Only the two zeros are false. -/
def isZero : Binary64 → Bool
  | .finite _ mantissa _ => mantissa == 0
  | _ => false

/-- The size of a finite number as a quotient of naturals. -/
def ratio (mantissa : Nat) (exponent : Int) : Nat × Nat :=
  (mantissa * Nat.pow 2 exponent.toNat, Nat.pow 2 (-exponent).toNat)

/-- The integer that a finite number is equal to. -/
def toInt? : Binary64 → Option Int
  | .finite negative mantissa exponent =>
    let (num, den) := ratio mantissa exponent
    if num % den = 0 then some (if negative then -(num / den : Nat) else (num / den : Nat)) else none
  | _ => none

/-- The whole part of a positive number; zero for any other. -/
def floor : Binary64 → Nat
  | .finite false mantissa exponent =>
    let (num, den) := ratio mantissa exponent
    num / den
  | _ => 0

end Binary64

end Externs
