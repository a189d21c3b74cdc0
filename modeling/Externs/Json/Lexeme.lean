import Externs.Json

/-!
# Lexemes of JSON text

A text is cut into brackets, separators, words, numbers and strings, each with the place where it
starts. The cut never fails: what starts no lexeme, or a string that is not well formed, is a lexeme of
its own, and it is the reader who decides whether it matters.

* `JsonFault`: what is wrong with a text and where;
* `Lexeme`: a lexeme;
* `Lexeme.Piece`: a code point of a string, with the way it is written;
* `Lexeme.stringBody`: the string after an opening quote;
* `Lexeme.number?`: the longest number at the start of a text;
* `Lexeme.scan`: all lexemes of a text.
-/

namespace Externs

set_option autoImplicit false

/-- Why a text is no JSON value. -/
inductive JsonProblem where
  | byteOrderMark
  | wantsValue
  | wantsName
  | wantsColon
  | wantsComma
  | unterminatedString
  | controlCharacter
  | badEscape
  | badUnicodeEscape
  | extraData
  | oversizedInteger
  deriving DecidableEq

/-- A problem, and the number of code points before it. -/
structure JsonFault where
  problem : JsonProblem
  position : Nat
  deriving DecidableEq

/-- A smallest part of a JSON text. `scalar` is a number or a word; `broken` is a string or a number
that started well; `stray` starts nothing. -/
inductive Lexeme where
  | openBrace
  | closeBrace
  | openBracket
  | closeBracket
  | colon
  | comma
  | scalar (value : Json)
  | string (value : Text)
  | broken (fault : JsonFault)
  | stray
  | finish

namespace Lexeme

/-! ## Strings -/

/-- A code point of a string: one that is written as itself or by a letter after a backslash, or one
that is given by its number. -/
inductive Piece where
  | plain (p : CodePoint)
  | numbered (p : CodePoint)

/-- The text of a string. Two numbers in a row may give the halves of one scalar value; a half that is
written as itself stays alone. -/
def Piece.text : List Piece → Text
  | .numbered p :: .numbered q :: rest =>
    match CodePoint.pair? p q with
    | some joined => joined :: text rest
    | none => p :: text (.numbered q :: rest)
  | .plain p :: rest => p :: text rest
  | .numbered p :: rest => p :: text rest
  | [] => []

/-- The code point that a letter after a backslash stands for. -/
def escape? (p : CodePoint) : Option CodePoint :=
  match p with
  | .scalar '"' => some (.scalar '"')
  | .scalar '\\' => some (.scalar '\\')
  | .scalar '/' => some (.scalar '/')
  | .scalar 'b' => some (.scalar '\x08')
  | .scalar 'f' => some (.scalar '\x0c')
  | .scalar 'n' => some (.scalar '\n')
  | .scalar 'r' => some (.scalar '\r')
  | .scalar 't' => some (.scalar '\t')
  | _ => none

/-- The code point given by four hexadecimal digits. -/
def unit? (a b c d : CodePoint) : Option CodePoint := do
  let a ← a.hexValue?
  let b ← b.hexValue?
  let c ← c.hexValue?
  let d ← d.hexValue?
  some (.ofNat (((a * 16 + b) * 16 + c) * 16 + d))

/-- A string in the making, with one more piece that took `length` code points to write. -/
def extend (piece : Piece) (length : Nat) (read : Except JsonFault (List Piece × Nat)) :
    Except JsonFault (List Piece × Nat) :=
  read.map fun (pieces, n) => (piece :: pieces, n + length)

/-- The string whose opening quote stands at `start`, read from `position` on: its pieces, and
how many code points it takes up to its closing quote. Four digits after `\u` must be followed by
something. -/
def stringBody (start : Nat) : Nat → Text → Except JsonFault (List Piece × Nat)
  | _, [] => .error ⟨.unterminatedString, start⟩
  | _, .scalar '"' :: _ => .ok ([], 1)
  | _, [.scalar '\\'] => .error ⟨.unterminatedString, start⟩
  | position, .scalar '\\' :: .scalar 'u' :: a :: b :: c :: d :: next :: rest =>
    match unit? a b c d with
    | some p => extend (.numbered p) 6 (stringBody start (position + 6) (next :: rest))
    | none => .error ⟨.badUnicodeEscape, position + 1⟩
  | position, .scalar '\\' :: .scalar 'u' :: _ => .error ⟨.badUnicodeEscape, position + 1⟩
  | position, .scalar '\\' :: letter :: rest =>
    match escape? letter with
    | some p => extend (.plain p) 2 (stringBody start (position + 2) rest)
    | none => .error ⟨.badEscape, position⟩
  | position, p :: rest =>
    if p.toNat < 0x20 then .error ⟨.controlCharacter, position⟩
    else extend (.plain p) 1 (stringBody start (position + 1) rest)

/-! ## Numbers and words -/

/-- Integers have at most this many digits. -/
def digitLimit : Nat := 4300

/-- The longest row of ASCII digits at the start of a text. -/
def digits (t : Text) : Text := t.takeWhile CodePoint.isAsciiDigit

/-- The digits after a point, if a fraction starts here. -/
def fraction : Text → Text
  | .scalar '.' :: rest => digits rest
  | _ => []

/-- The sign and the digits of an exponent, and how many code points it takes, if one starts here. -/
def exponent : Text → Option (Bool × Text × Nat)
  | .scalar e :: rest =>
    if e = 'e' ∨ e = 'E' then
      let (negative, row, signs) := match rest with
        | .scalar '-' :: row => (true, digits row, 1)
        | .scalar '+' :: row => (false, digits row, 1)
        | row => (false, digits row, 0)
      if row.isEmpty then none else some (negative, row, 1 + signs + row.length)
    else none
  | _ => none

/-- The whole part of a number: a zero, or digits of which the first is no zero. -/
def whole : Text → Text
  | .scalar '0' :: _ => [.scalar '0']
  | t => digits t

/-- The longest number without a sign at the start of a text, and how many code points it takes. -/
def unsigned? (negative : Bool) (t : Text) : Option (Except JsonProblem Json × Nat) :=
  let whole := whole t
  if whole.isEmpty then none
  else
    let rest := t.drop whole.length
    let fraction := fraction rest
    let fractionLength := if fraction.isEmpty then 0 else fraction.length + 1
    let rest := rest.drop fractionLength
    match exponent rest with
    | some (down, row, length) =>
      let size : Int := row.digitsToNat
      let scale := (if down then -size else size) - fraction.length
      some (.ok (.float (.ofDecimal negative (whole ++ fraction).digitsToNat scale)),
        whole.length + fractionLength + length)
    | none =>
      if fraction.isEmpty then
        if digitLimit < whole.length then some (.error .oversizedInteger, whole.length)
        else
          let n : Int := whole.digitsToNat
          some (.ok (.int (if negative then -n else n)), whole.length)
      else
        some (.ok (.float (.ofDecimal negative (whole ++ fraction).digitsToNat (-fraction.length))),
          whole.length + fractionLength)

/-- The longest number at the start of a text, and how many code points it takes. -/
def number? : Text → Option (Except JsonProblem Json × Nat)
  | .scalar '-' :: rest => (unsigned? true rest).map fun (value, length) => (value, length + 1)
  | t => unsigned? false t

/-- The words that stand for values. -/
def words : List (Text × Json) :=
  [("null", .null), ("true", .bool true), ("false", .bool false), ("NaN", .float .nan),
    ("Infinity", .float (.infinite false)), ("-Infinity", .float (.infinite true))]

/-- The word at the start of a text, and how many code points it takes. -/
def word? (t : Text) : Option (Json × Nat) :=
  (words.find? fun (word, _) => word.isPrefixOf t).map fun (word, value) => (value, word.length)

/-! ## The cut -/

/-- The space, the tab, the line feed and the carriage return, which separate lexemes. -/
def isGap (p : CodePoint) : Bool :=
  p = .scalar ' ' || p = .scalar '\t' || p = .scalar '\n' || p = .scalar '\r'

/-- The lexeme that starts with `p` at `position`, and how many of the code points after `p` belong
to it. -/
def first (position : Nat) (p : CodePoint) (rest : Text) : Lexeme × Nat :=
  match p with
  | .scalar '\x7b' => (.openBrace, 0)
  | .scalar '\x7d' => (.closeBrace, 0)
  | .scalar '[' => (.openBracket, 0)
  | .scalar ']' => (.closeBracket, 0)
  | .scalar ':' => (.colon, 0)
  | .scalar ',' => (.comma, 0)
  | .scalar '"' =>
    match stringBody position (position + 1) rest with
    | .ok (pieces, length) => (.string (Piece.text pieces), length)
    | .error fault => (.broken fault, 0)
  | p =>
    match word? (p :: rest) with
    | some (value, length) => (.scalar value, length - 1)
    | none =>
      match number? (p :: rest) with
      | some (.ok value, length) => (.scalar value, length - 1)
      | some (.error problem, length) => (.broken ⟨problem, position⟩, length - 1)
      | none => (.stray, 0)

/-- The lexemes of a text whose first `skip` code points belong to a lexeme already cut, each with its
position. The last one is `finish`. -/
def scanFrom : Nat → Nat → Text → List (Nat × Lexeme)
  | position, _, [] => [(position, .finish)]
  | position, skip + 1, _ :: rest => scanFrom (position + 1) skip rest
  | position, 0, p :: rest =>
    if isGap p then scanFrom (position + 1) 0 rest
    else
      let (lexeme, length) := first position p rest
      (position, lexeme) :: scanFrom (position + 1) length rest

/-- All lexemes of a text, each with its position. -/
def scan (t : Text) : List (Nat × Lexeme) := scanFrom 0 0 t

end Lexeme

end Externs
