import Externs.Text.CodePoint

/-!
# Blanks and decimal digits

* `CodePoint.isBlank`: the white space of Unicode, which surrounds numbers without a meaning;
* `CodePoint.isSpace`: white space and the four separators of ASCII, which end words in a dotenv
  file;
* `CodePoint.decimal?`: the value of a decimal digit of any script.
-/

namespace Externs.CodePoint

set_option autoImplicit false

/-- The code points with the Unicode property White_Space. -/
def isBlank (p : CodePoint) : Bool :=
  let n := p.toNat
  (0x9 ≤ n && n ≤ 0xd) || n = 0x20 || n = 0x85 || n = 0xa0 || n = 0x1680 ||
    (0x2000 ≤ n && n ≤ 0x200a) || n = 0x2028 || n = 0x2029 || n = 0x202f || n = 0x205f ||
    n = 0x3000

/-- A blank, or one of the information separators U+001C to U+001F. -/
def isSpace (p : CodePoint) : Bool := p.isBlank || (0x1c ≤ p.toNat && p.toNat ≤ 0x1f)

/-- The code point of the digit zero in every script with decimal digits; the other nine follow it. -/
def decimalZeros : List Nat :=
  [ 0x30, 0x660, 0x6f0, 0x7c0, 0x966, 0x9e6, 0xa66, 0xae6, 0xb66, 0xbe6, 0xc66, 0xce6, 0xd66,
    0xde6, 0xe50, 0xed0, 0xf20, 0x1040, 0x1090, 0x17e0, 0x1810, 0x1946, 0x19d0, 0x1a80, 0x1a90,
    0x1b50, 0x1bb0, 0x1c40, 0x1c50, 0xa620, 0xa8d0, 0xa900, 0xa9d0, 0xa9f0, 0xaa50, 0xabf0,
    0xff10, 0x104a0, 0x10d30, 0x11066, 0x110f0, 0x11136, 0x111d0, 0x112f0, 0x11450, 0x114d0,
    0x11650, 0x116c0, 0x11730, 0x118e0, 0x11950, 0x11c50, 0x11d50, 0x11da0, 0x16a60, 0x16ac0,
    0x16b50, 0x1d7ce, 0x1d7d8, 0x1d7e2, 0x1d7ec, 0x1d7f6, 0x1e140, 0x1e2f0, 0x1e950, 0x1fbf0]

/-- The value of a decimal digit. -/
def decimal? (p : CodePoint) : Option Nat :=
  (decimalZeros.find? fun start => start ≤ p.toNat && p.toNat < start + 10).map (p.toNat - ·)

end Externs.CodePoint
