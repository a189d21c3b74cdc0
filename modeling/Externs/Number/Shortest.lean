import Externs.Number.Binary64
import Externs.Text.CodePoint

/-!
# Shortest decimals

A double-precision number is written with the fewest decimal digits that read back as the same
number; of two such decimals the nearer one is taken, and of two equally near ones the even one.

* `Decimal`: a row of digits and the place of its point;
* `Decimal.shortest`: the digits of a finite number;
* `NumberLayout`: when an exponent is written and how;
* `Binary64.text`: the text of a number.
-/

namespace Externs

set_option autoImplicit false

/-- The decimal `0.d₁d₂d₃… * 10 ^ point`. -/
structure Decimal where
  digits : List Nat
  point : Int
  deriving DecidableEq

namespace Decimal

/-- The decimal digits of a natural number, the greatest place first. -/
def digitsOf (n : Nat) : List Nat := (Nat.toDigits 10 n).map fun c => c.toNat - '0'.toNat

/-- The decimal equal to `n * 10 ^ exponent`, without zeros at its end. -/
def ofScaled (n : Nat) (exponent : Int) : Decimal :=
  let digits := digitsOf n
  ⟨(digits.reverse.dropWhile (· == 0)).reverse, digits.length + exponent⟩

/-- The place of the point of a positive quotient: the `p` with `10 ^ (p - 1) ≤ num / den < 10 ^ p`.
Double-precision numbers are above `10 ^ -400`. -/
def pointOf (num den : Nat) : Int := (digitsOf (num * Nat.pow 10 400 / den)).length - 400

/-- The decimal with `count` digits that reads back as the number, if there is one: the quotient lies
between two neighbours of that length. -/
def ofLength? (mantissa : Nat) (exponent : Int) (count : Nat) : Option Decimal :=
  let (num, den) := Binary64.ratio mantissa exponent
  let unit := pointOf num den - count
  let num := num * Nat.pow 10 (-unit).toNat
  let den := den * Nat.pow 10 unit.toNat
  let low := num / den
  let high := low + 1
  let twice := 2 * (num % den)
  let readsBack (n : Nat) : Bool := Binary64.ofDecimal false n unit = .finite false mantissa exponent
  let lowFirst := twice < den || (twice == den && low % 2 == 0)
  let candidates := if lowFirst then [low, high] else [high, low]
  (candidates.find? readsBack).map fun n => ofScaled n unit

/-- The shortest decimal that reads back as the positive number `mantissa * 2 ^ exponent`. Seventeen
digits always suffice. -/
def shortest (mantissa : Nat) (exponent : Int) : Decimal :=
  ((List.range 17).findSome? fun i => ofLength? mantissa exponent (i + 1)).getD ⟨[0], 1⟩

end Decimal

/-- How decimals are laid out. -/
structure NumberLayout where
  /-- The exponents of ten for which no exponent is written. -/
  leastPlain : Int
  greatestPlain : Int
  /-- The least number of digits of a written exponent. -/
  exponentWidth : Nat

namespace NumberLayout

/-- The digits as text. -/
def row (digits : List Nat) : Text := digits.map fun d => CodePoint.ofNat (d + '0'.toNat)

/-- Without an exponent, with at least one digit on either side of the point. -/
def plain (d : Decimal) : Text :=
  if d.point ≤ 0 then "0." ++ row (List.replicate (-d.point).toNat 0) ++ row d.digits
  else
    let whole := d.digits.take d.point.toNat
    let fraction := d.digits.drop d.point.toNat
    row whole ++ row (List.replicate (d.point.toNat - whole.length) 0) ++ "." ++
      (if fraction.isEmpty then row [0] else row fraction)

/-- With an exponent that has a sign; the point is written only before a fraction. -/
def scientific (layout : NumberLayout) (d : Decimal) : Text :=
  let exponent := d.point - 1
  let size := Text.ofNat exponent.natAbs
  let fraction : Text := if d.digits.length ≤ 1 then [] else "." ++ row (d.digits.drop 1)
  let sign : Text := if exponent < 0 then "-" else "+"
  row (d.digits.take 1) ++ fraction ++ "e" ++ sign ++
    row (List.replicate (layout.exponentWidth - size.length) 0) ++ size

/-- The text of a decimal. -/
def write (layout : NumberLayout) (d : Decimal) : Text :=
  if layout.leastPlain ≤ d.point - 1 ∧ d.point - 1 ≤ layout.greatestPlain then plain d
  else layout.scientific d

end NumberLayout

namespace Binary64

/-- Numbers from `10 ^ -4` up to `10 ^ 16` are written without an exponent, and exponents have two
digits or more. -/
def layout : NumberLayout := ⟨-4, 15, 2⟩

/-- The minus sign of a negative number. -/
def sign (negative : Bool) : Text := if negative then "-" else ""

/-- The text of a double-precision number. -/
def text : Binary64 → Text
  | .nan => "nan"
  | .infinite negative => sign negative ++ "inf"
  | .finite negative 0 _ => sign negative ++ "0.0"
  | .finite negative mantissa exponent =>
    sign negative ++ layout.write (Decimal.shortest mantissa exponent)

end Binary64

end Externs
