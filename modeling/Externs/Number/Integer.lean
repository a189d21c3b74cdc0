import Externs.Text.Blank

/-!
# Integers in words

Two readers for integers that people write: in a setting, and after an option of the command.

* `Integer.cleaned?`: the number of a setting, as it would be written in full;
* `Integer.ofSetting`: an integer setting, which may have leading zeros and a fraction of zeros;
* `Integer.digits?`: digits with single underscores between them;
* `Integer.ofOption?`: an integer option, in the digits of any script.
-/

namespace Externs.Integer

set_option autoImplicit false

/-- Integers have at most this many digits. -/
def digitLimit : Nat := 4300

/-- The integer of a sign and digits. -/
def ofDigits (negative : Bool) (digits : Text) : Int :=
  if negative then -(digits.digitsToNat : Int) else digits.digitsToNat

/-! ## Settings -/

/-- Whether a number goes on with this code point after zeros: a digit other than zero, or a minus sign
that comes late. -/
def startsNumber (p : CodePoint) : Bool := p.isBetween '1' '9' || p = .scalar '-'

/-- What is left of a number after zeros, of which `last` is the last one. Underscores among the zeros
do not count. If nothing or a point follows, the last of them is kept. -/
def afterZeros? (last : CodePoint) : Text → Option Text
  | [] => some [last]
  | p :: rest =>
    if p = .scalar '0' || p = .scalar '_' then afterZeros? p rest
    else if startsNumber p then some (p :: rest)
    else if p = .scalar '.' then some (last :: p :: rest)
    else none

/-- A number without its leading zeros. -/
def dropZeros? : Text → Option Text
  | [] => none
  | p :: rest =>
    if p = .scalar '0' then afterZeros? p rest
    else if startsNumber p then some (p :: rest)
    else none

/-- A number without a fraction of zeros. Any other fraction stays. -/
def dropFraction (t : Text) : Text :=
  let whole := t.takeWhile (· != .scalar '.')
  let fraction := t.drop (whole.length + 1)
  if !fraction.isEmpty && fraction.all (· = .scalar '0') then whole else t

/-- A number without underscores. None may stand at an end or beside another one. -/
def dropUnderscores? (t : Text) : Option Text :=
  let groups := t.splitAt (.scalar '_')
  if groups.length = 1 || groups.all (!·.isEmpty) then some groups.flatten else none

/-- The minus sign in front of a number, and what follows it. -/
def minus : Text → Text × Text
  | .scalar '-' :: rest => ([.scalar '-'], rest)
  | t => ([], t)

/-- A number as it would be written in full: no blanks around it, no plus sign, no leading zeros, no
fraction of zeros and no underscores. -/
def cleaned? (t : Text) : Option Text :=
  match t.trim CodePoint.isBlank with
  | .scalar '+' :: .scalar '-' :: _ => none
  | .scalar '+' :: rest => clean? [] rest
  | t => clean? (minus t).1 (minus t).2
where
  /-- The sign of a number, before the number that is left of the rest. -/
  clean? (sign rest : Text) : Option Text := do
    let rest ← dropZeros? rest
    let rest ← dropUnderscores? (dropFraction rest)
    some (sign ++ rest)

/-- The integer that is written in full: a zero, or digits of which the first is no zero, after a minus
sign or not. A number that is too long is none. -/
def ofPlain? (t : Text) : Option Int :=
  let (sign, digits) := minus t
  let wellFormed := digits = [.scalar '0'] ||
    (digits.head?.any (·.isBetween '1' '9') && digits.all CodePoint.isAsciiDigit)
  if wellFormed && digits.length ≤ digitLimit then some (ofDigits (!sign.isEmpty) digits) else none

/-- Whether a text starts with a number written in full that has too many digits. -/
def startsTooLong (t : Text) : Bool :=
  let (_, rest) := minus t
  rest.head?.any (·.isBetween '1' '9') &&
    digitLimit < (rest.takeWhile CodePoint.isAsciiDigit).length

/-- Why a text is no integer. -/
inductive Problem where
  | notInteger
  | tooLong
  deriving DecidableEq

/-- The integer that a setting gives. That a number is too long is said only of one that starts the
text. -/
def ofSetting (t : Text) : Except Problem Int :=
  if startsTooLong t then .error .tooLong
  else match (cleaned? t).bind ofPlain? with
    | some n => .ok n
    | none => .error .notInteger

/-! ## Options -/

/-- The digits without the underscores between them. No underscore stands at an end or beside another
one. -/
def digits? (t : Text) : Option Text :=
  let groups := t.splitAt (.scalar '_')
  if groups.all fun group => !group.isEmpty && group.all CodePoint.isAsciiDigit then
    some groups.flatten
  else none

/-- The sign in front of a number, and what follows it. -/
def sign : Text → Bool × Text
  | .scalar '-' :: rest => (true, rest)
  | .scalar '+' :: rest => (false, rest)
  | t => (false, t)

/-- A decimal digit of any script as an ASCII digit; other code points stay. -/
def toAsciiDigit (p : CodePoint) : CodePoint :=
  match p.decimal? with
  | some n => .ofNat ('0'.toNat + n)
  | none => p

/-- The integer that an option gives: blanks around it do not count. -/
def ofOption? (t : Text) : Option Int :=
  let (negative, unsigned) := sign ((t.trim CodePoint.isBlank).map toAsciiDigit)
  (digits? unsigned).bind fun digits =>
    if digitLimit < digits.length then none else some (ofDigits negative digits)

end Externs.Integer
