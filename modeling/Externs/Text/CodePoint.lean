/-!
# Code points and texts

Declaration trees arrive as JSON, where an escape such as `\ud800` may name half of a surrogate pair.
Such a half is kept until the text leaves the program, so texts are lists of code points and not
strings.

* `CodePoint`: a Unicode scalar value, or a lone surrogate;
* `Text`: a list of code points;
* `Text.joinWith`, `Text.splitAt`: parts of a text put together with a mark between them, and cut apart.
-/

namespace Externs

set_option autoImplicit false

/-- A Unicode code point: a scalar value, or one of the surrogates, counted from U+D800. -/
inductive CodePoint where
  | scalar (c : Char)
  | surrogate (index : Fin 0x800)
  deriving DecidableEq, Inhabited

/-- A sequence of code points. -/
abbrev Text := List CodePoint

namespace CodePoint

/-- The number that Unicode gives to a code point. -/
def toNat : CodePoint → Nat
  | .scalar c => c.toNat
  | .surrogate index => 0xD800 + index.val

/-- The code point of a number; a number outside the code space gives U+FFFD. -/
def ofNat (n : Nat) : CodePoint :=
  if 0xD800 ≤ n ∧ n < 0xE000 then .surrogate (Fin.ofNat 0x800 (n - 0xD800))
  else if n < 0x110000 then .scalar (Char.ofNat n)
  else .scalar '�'

/-- The scalar value that a high and a low surrogate stand for together. -/
def pair? : CodePoint → CodePoint → Option CodePoint
  | .surrogate high, .surrogate low =>
    if high.val < 0x400 ∧ 0x400 ≤ low.val then
      some (.scalar (Char.ofNat (0x10000 + high.val * 0x400 + (low.val - 0x400))))
    else none
  | _, _ => none

/-- The character of a code point that is a scalar value. -/
def scalar? : CodePoint → Option Char
  | .scalar c => some c
  | .surrogate _ => none

/-- A character from `low` to `high`. -/
def isBetween (low high : Char) : CodePoint → Bool
  | .scalar c => low.toNat ≤ c.toNat && c.toNat ≤ high.toNat
  | .surrogate _ => false

/-- One of the ten ASCII digits. -/
def isAsciiDigit (p : CodePoint) : Bool := p.isBetween '0' '9'

/-- The letters, digits and underscore of ASCII, which make up identifiers. -/
def isWord (p : CodePoint) : Bool :=
  p.isBetween '0' '9' || p.isBetween 'A' 'Z' || p.isBetween 'a' 'z' || p = .scalar '_'

/-- The capitals `A` to `Z` become small letters; all else stays. -/
def toAsciiLower : CodePoint → CodePoint
  | .scalar c =>
    if 'A'.toNat ≤ c.toNat ∧ c.toNat ≤ 'Z'.toNat then .scalar (Char.ofNat (c.toNat + 32))
    else .scalar c
  | .surrogate index => .surrogate index

/-- The value of an ASCII digit, as a decimal digit. -/
def digitValue (p : CodePoint) : Nat := p.toNat - '0'.toNat

/-- The value of a hexadecimal digit of either letter case. -/
def hexValue? (p : CodePoint) : Option Nat :=
  if p.isBetween '0' '9' then some (p.toNat - '0'.toNat)
  else if p.isBetween 'a' 'f' then some (p.toNat - 'a'.toNat + 10)
  else if p.isBetween 'A' 'F' then some (p.toNat - 'A'.toNat + 10)
  else none

end CodePoint

namespace Text

/-- The text of a string. -/
def ofString (s : String) : Text := s.toList.map CodePoint.scalar

instance : Coe String Text := ⟨ofString⟩

/-- The string of a text; `none` if a lone surrogate stands in it. -/
def toString? (t : Text) : Option String := (t.mapM CodePoint.scalar?).map String.ofList

/-- The decimal digits of a natural number. -/
def ofNat (n : Nat) : Text := (Nat.toDigits 10 n).map CodePoint.scalar

/-- The decimal digits of an integer, after a minus sign if it is negative. -/
def ofInt : Int → Text
  | .ofNat n => ofNat n
  | .negSucc n => .scalar '-' :: ofNat (n + 1)

/-- The number that a row of ASCII digits stands for. -/
def digitsToNat (t : Text) : Nat := t.foldl (fun n p => 10 * n + p.digitValue) 0

/-- The parts in order, with `separator` between each two of them. -/
def joinWith (separator : Text) : List Text → Text
  | [] => []
  | [part] => part
  | part :: parts => part ++ separator ++ joinWith separator parts

/-- Cuts a text at every occurrence of `mark`, which belongs to no piece. A text without the mark is
one piece. -/
def splitAt (mark : CodePoint) : Text → List Text
  | [] => [[]]
  | p :: rest =>
    if p = mark then [] :: splitAt mark rest
    else match splitAt mark rest with
      | [] => [[p]]
      | piece :: pieces => (p :: piece) :: pieces

theorem splitAt_ne_nil (mark : CodePoint) (t : Text) : splitAt mark t ≠ [] := by
  cases t with
  | nil => simp [splitAt]
  | cons p rest =>
    rw [splitAt]
    split
    · simp
    · split <;> simp

/-- The pieces of a text, with the mark put back between them, are the text. -/
theorem joinWith_splitAt (mark : CodePoint) (t : Text) : joinWith [mark] (splitAt mark t) = t := by
  induction t with
  | nil => rfl
  | cons p rest ih =>
    have hne := splitAt_ne_nil mark rest
    cases h : splitAt mark rest with
    | nil => exact absurd h hne
    | cons piece pieces =>
      rw [h] at ih
      by_cases hp : p = mark
      · simp [splitAt, hp, h, joinWith, ih]
      · cases pieces with
        | nil =>
          have hpiece : piece = rest := by simpa [joinWith] using ih
          simp [splitAt, hp, h, joinWith, hpiece]
        | cons next others =>
          have hsplit : splitAt mark (p :: rest) = (p :: piece) :: next :: others := by
            simp [splitAt, hp, h]
          rw [hsplit, ← ih]
          rfl

/-- The line feed, which ends a line. -/
def lineFeed : CodePoint := .scalar '\n'

/-- Removes from the end of a text the longest row of code points that `drop` accepts. -/
def trimEnd (drop : CodePoint → Bool) (t : Text) : Text :=
  (t.reverse.dropWhile drop).reverse

/-- Removes from both ends of a text the longest rows of code points that `drop` accepts. -/
def trim (drop : CodePoint → Bool) (t : Text) : Text := trimEnd drop (t.dropWhile drop)

/-- The text with the ASCII capitals turned into small letters. -/
def toAsciiLower (t : Text) : Text := t.map CodePoint.toAsciiLower

/-- Texts are ordered like dictionaries, by the numbers of their code points. -/
def precedes : Text → Text → Bool
  | [], _ => true
  | _ :: _, [] => false
  | p :: s, q :: t => p.toNat < q.toNat || (p.toNat = q.toNat && precedes s t)

/-- Both ways of ending a line with a carriage return become a single line feed. -/
def unifyLineEnds : Text → Text
  | .scalar '\r' :: .scalar '\n' :: rest => lineFeed :: unifyLineEnds rest
  | .scalar '\r' :: rest => lineFeed :: unifyLineEnds rest
  | p :: rest => p :: unifyLineEnds rest
  | [] => []

end Text

end Externs
