import Externs.Text.Printable

/-!
# Quoted texts

Inside messages and inside the text of a list or a mapping, texts stand in quotes.

* `Text.quoteMark`: single quotes, unless the text holds one and no double quote;
* `CodePoint.escaped`: how a code point is written between quotes;
* `Text.quoted`: the text in quotes.
-/

namespace Externs

set_option autoImplicit false

/-- The quote to stand around a text. -/
def Text.quoteMark (t : Text) : CodePoint :=
  if t.contains (.scalar '\'') && !t.contains (.scalar '"') then .scalar '"' else .scalar '\''

/-- The digit of a value below sixteen, in small letters. -/
def CodePoint.hexDigit (n : Nat) : CodePoint :=
  if n < 10 then .ofNat ('0'.toNat + n) else .ofNat ('a'.toNat + (n - 10))

/-- The last `width` hexadecimal digits of a number. -/
def Text.hexDigits : Nat → Nat → Text
  | 0, _ => []
  | width + 1, n => hexDigits width (n / 16) ++ [CodePoint.hexDigit (n % 16)]

/-- A code point between quotes: the backslash and the quote in use get a backslash, line feed,
carriage return and tab have letters of their own, and other unprintable code points are given by two,
four or eight hexadecimal digits. -/
def CodePoint.escaped (mark p : CodePoint) : Text :=
  if p = .scalar '\\' ∨ p = mark then [.scalar '\\', p]
  else if p = .scalar '\n' then "\\n"
  else if p = .scalar '\r' then "\\r"
  else if p = .scalar '\t' then "\\t"
  else if p.isPrintable then [p]
  else if p.toNat < 0x100 then "\\x" ++ Text.hexDigits 2 p.toNat
  else if p.toNat < 0x10000 then "\\u" ++ Text.hexDigits 4 p.toNat
  else "\\U" ++ Text.hexDigits 8 p.toNat

/-- The text in quotes. -/
def Text.quoted (t : Text) : Text :=
  [t.quoteMark] ++ t.flatMap (CodePoint.escaped t.quoteMark) ++ [t.quoteMark]

end Externs
