import Externs.Text.CodePoint

/-!
# Similar texts

Two texts are compared by what they share: the longest piece that both hold, and then, in the same way,
what both hold before it and after it.

* `Text.longestShared`: the longest piece that two texts share;
* `Text.sharedSize`: how many code points two texts share;
* `Text.isSimilarTo`: whether two texts share three fifths of their code points;
* `Text.mostSimilar`: the few texts that are most similar to a given one.
-/

namespace Externs

set_option autoImplicit false

/-- A piece that two texts share: where it starts in each of them, and its length. -/
structure SharedPiece where
  first : Nat
  second : Nat
  size : Nat
  deriving DecidableEq

namespace Text

/-- The length of the longest start that two texts share. -/
def commonStart : Text → Text → Nat
  | p :: s, q :: t => if p = q then commonStart s t + 1 else 0
  | _, _ => 0

/-- All pieces that two texts share, one for each pair of places, in order. -/
def sharedPieces (s t : Text) : List SharedPiece :=
  (List.range s.length).flatMap fun i =>
    (List.range t.length).map fun j => ⟨i, j, commonStart (s.drop i) (t.drop j)⟩

/-- The longest piece that two texts share. Of several, it is the one that starts first in the first
text, and then first in the second. -/
def longestShared (s t : Text) : SharedPiece :=
  (sharedPieces s t).foldl (fun best piece => if best.size < piece.size then piece else best) ⟨0, 0, 0⟩

/-- How many code points two texts share. Each round takes at least one of them off the first text, so
that its length bounds the rounds. -/
def sharedWithin : Nat → Text → Text → Nat
  | 0, _, _ => 0
  | rounds + 1, s, t =>
    let piece := longestShared s t
    if piece.size = 0 then 0
    else
      piece.size + sharedWithin rounds (s.take piece.first) (t.take piece.second) +
        sharedWithin rounds (s.drop (piece.first + piece.size)) (t.drop (piece.second + piece.size))

/-- How many code points two texts share. -/
def sharedSize (s t : Text) : Nat := sharedWithin s.length s t

/-- Whether what two texts share is at least three fifths of them. Texts share no more than the shorter
of them, so that lengths alone may settle the question. -/
def isSimilarTo (s t : Text) : Bool :=
  let least := 3 * (s.length + t.length)
  least ≤ 10 * min s.length t.length && least ≤ 10 * sharedSize s t

/-- Whether `s` is to be named before `t` among texts similar to `word`: it shares a greater part with
it, or the same part and comes later in the dictionary. -/
def isNearer (word s t : Text) : Bool :=
  let ofS := sharedSize s word * (t.length + word.length)
  let ofT := sharedSize t word * (s.length + word.length)
  ofT < ofS || (ofT = ofS && precedes t s)

/-- The `count` texts that are most similar to `word`, those that are not similar left out. -/
def mostSimilar (count : Nat) (word : Text) (texts : List Text) : List Text :=
  ((texts.filter (isSimilarTo · word)).mergeSort (isNearer word)).take count

end Text

end Externs
