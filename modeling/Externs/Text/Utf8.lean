import Externs.Text.CodePoint

/-!
# UTF-8

Files and standard output hold texts as UTF-8. The names of files and the variables of a process are
bytes that need not be UTF-8; in a text, a surrogate from U+DC80 to U+DCFF stands for each byte that
is not.

* `Utf8.decode?`: the text of a sequence of bytes, if it is well formed;
* `Utf8.decodeLoosely`: the text of any bytes, with a replacement for what is not well formed;
* `Utf8.encode?`: the bytes of a text, if no lone surrogate stands in it;
* `Utf8.decodeEscaped`, `Utf8.encodeEscaped?`: any bytes as a text with escapes, and back;
* `Utf8.settled`: a text as it comes back from a place that keeps bytes.
-/

namespace Externs.Utf8

set_option autoImplicit false

/-- The six low bits of a byte that continues a code point. -/
def continuation? (b : UInt8) : Option Nat :=
  if 0x80 ≤ b.toNat ∧ b.toNat < 0xC0 then some (b.toNat - 0x80) else none

/-- A code point written with more bytes than `least` requires, a surrogate, and a number outside the
code space are refused. -/
def checked? (least n : Nat) : Option CodePoint :=
  if least ≤ n ∧ n < 0x110000 ∧ ¬(0xD800 ≤ n ∧ n < 0xE000) then some (.ofNat n) else none

/-- The code point that starts with the byte `b`, and how many of the bytes after it belong to it. -/
def first? (b : UInt8) (rest : List UInt8) : Option (CodePoint × Nat) :=
  let n := b.toNat
  if n < 0x80 then some (.ofNat n, 0)
  else if 0xC0 ≤ n ∧ n < 0xE0 then
    match rest with
    | b₁ :: _ => do
      let x₁ ← continuation? b₁
      let p ← checked? 0x80 ((n - 0xC0) * 0x40 + x₁)
      some (p, 1)
    | _ => none
  else if 0xE0 ≤ n ∧ n < 0xF0 then
    match rest with
    | b₁ :: b₂ :: _ => do
      let x₁ ← continuation? b₁
      let x₂ ← continuation? b₂
      let p ← checked? 0x800 (((n - 0xE0) * 0x40 + x₁) * 0x40 + x₂)
      some (p, 2)
    | _ => none
  else if 0xF0 ≤ n ∧ n < 0xF8 then
    match rest with
    | b₁ :: b₂ :: b₃ :: _ => do
      let x₁ ← continuation? b₁
      let x₂ ← continuation? b₂
      let x₃ ← continuation? b₃
      let p ← checked? 0x10000 ((((n - 0xF0) * 0x40 + x₁) * 0x40 + x₂) * 0x40 + x₃)
      some (p, 3)
    | _ => none
  else none

/-- The text of the bytes after the first `skip`, which belong to a code point already read. -/
def decodeFrom? : Nat → List UInt8 → Option Text
  | _, [] => some []
  | skip + 1, _ :: rest => decodeFrom? skip rest
  | 0, b :: rest => do
    let (p, length) ← first? b rest
    let t ← decodeFrom? length rest
    some (p :: t)

/-- The text of a sequence of bytes; `none` if it is not well-formed UTF-8. -/
def decode? (bytes : List UInt8) : Option Text := decodeFrom? 0 bytes

/-- How many bytes follow a leading byte, and the least and the greatest value of the first of
them. -/
def following? (b : UInt8) : Option (Nat × Nat × Nat) :=
  let n := b.toNat
  if 0xC2 ≤ n ∧ n < 0xE0 then some (1, 0x80, 0xBF)
  else if n = 0xE0 then some (2, 0xA0, 0xBF)
  else if n = 0xED then some (2, 0x80, 0x9F)
  else if 0xE1 ≤ n ∧ n < 0xF0 then some (2, 0x80, 0xBF)
  else if n = 0xF0 then some (3, 0x90, 0xBF)
  else if 0xF1 ≤ n ∧ n < 0xF4 then some (3, 0x80, 0xBF)
  else if n = 0xF4 then some (3, 0x80, 0x8F)
  else none

/-- How many of the bytes after `b` go with it as the start of a code point. -/
def fitting (b : UInt8) (rest : List UInt8) : Nat :=
  match following? b, rest with
  | some (count, least, greatest), b₁ :: others =>
    if least ≤ b₁.toNat ∧ b₁.toNat ≤ greatest then
      1 + ((others.take (count - 1)).takeWhile fun c => (continuation? c).isSome).length
    else 0
  | _, _ => 0

/-- The text of the bytes after the first `skip`. A start that no code point completes becomes one
U+FFFD. -/
def decodeLooselyFrom : Nat → List UInt8 → Text
  | _, [] => []
  | skip + 1, _ :: rest => decodeLooselyFrom skip rest
  | 0, b :: rest =>
    match first? b rest with
    | some (p, length) => p :: decodeLooselyFrom length rest
    | none => .ofNat 0xFFFD :: decodeLooselyFrom (fitting b rest) rest

/-- The text of a sequence of bytes, well formed or not. -/
def decodeLoosely (bytes : List UInt8) : Text := decodeLooselyFrom 0 bytes

/-- The bytes of a scalar value. -/
def encodeScalar (c : Char) : List UInt8 :=
  let n := c.toNat
  let tail (k : Nat) : UInt8 := UInt8.ofNat (0x80 + n / Nat.pow 0x40 k % 0x40)
  if n < 0x80 then [UInt8.ofNat n]
  else if n < 0x800 then [UInt8.ofNat (0xC0 + n / 0x40), tail 0]
  else if n < 0x10000 then [UInt8.ofNat (0xE0 + n / 0x1000), tail 1, tail 0]
  else [UInt8.ofNat (0xF0 + n / 0x40000), tail 2, tail 1, tail 0]

/-- The bytes of a text; `none` if a lone surrogate stands in it. -/
def encode? : Text → Option (List UInt8)
  | [] => some []
  | .scalar c :: rest => (encode? rest).map (encodeScalar c ++ ·)
  | .surrogate _ :: _ => none

/-! ## Bytes that are not UTF-8 -/

/-- The surrogate that stands for a byte of 0x80 or more. -/
def escape (b : UInt8) : CodePoint := .ofNat (0xDC00 + b.toNat)

/-- The byte for which a surrogate stands, given by its index. -/
def escapedByte? (index : Fin 0x800) : Option UInt8 :=
  if 0x480 ≤ index.val ∧ index.val < 0x500 then some (UInt8.ofNat (index.val - 0x400)) else none

/-- The text of the bytes after the first `skip`. A byte that starts no code point is escaped. -/
def decodeEscapedFrom : Nat → List UInt8 → Text
  | _, [] => []
  | skip + 1, _ :: rest => decodeEscapedFrom skip rest
  | 0, b :: rest =>
    match first? b rest with
    | some (p, length) => p :: decodeEscapedFrom length rest
    | none => escape b :: decodeEscapedFrom 0 rest

/-- The text of a sequence of bytes, with escapes for those that are not UTF-8. -/
def decodeEscaped (bytes : List UInt8) : Text := decodeEscapedFrom 0 bytes

/-- The bytes of a text with escapes; `none` if a surrogate that stands for no byte is in it. -/
def encodeEscaped? : Text → Option (List UInt8)
  | [] => some []
  | .scalar c :: rest => (encodeEscaped? rest).map (encodeScalar c ++ ·)
  | .surrogate index :: rest => do
    let b ← escapedByte? index
    let bytes ← encodeEscaped? rest
    some (b :: bytes)

/-- A text as it comes back from a place that keeps bytes: escapes that are UTF-8 together become the
code points they spell. -/
def settled (t : Text) : Text :=
  match encodeEscaped? t with
  | some bytes => decodeEscaped bytes
  | none => t

end Externs.Utf8
