import Externs.Text.CodePoint

/-!
# Patterns

* `Pattern`: patterns for a part of a text, which may look at what is around the part;
* `Pattern.Matches`: when a part matches a pattern;
* `Pattern.FoundIn`: when some part of a text does.
-/

namespace Externs

set_option autoImplicit false

/-- A pattern for a part of a text. -/
inductive Pattern where
  /-- No code points, at the start of the text. -/
  | start
  /-- No code points, at the end of the text or before a line feed that ends it. -/
  | finish
  /-- One code point of a class. -/
  | one (accepts : CodePoint → Bool)
  | either (first second : Pattern)
  | sequence (first second : Pattern)

namespace Pattern

/-- A part of a text, with what comes before it and after it, matches a pattern. -/
def Matches : Pattern → Text → Text → Text → Prop
  | .start, before, part, _ => before = [] ∧ part = []
  | .finish, _, part, after => part = [] ∧ (after = [] ∨ after = [Text.lineFeed])
  | .one accepts, _, part, _ => ∃ p, part = [p] ∧ accepts p = true
  | .either first second, before, part, after =>
    first.Matches before part after ∨ second.Matches before part after
  | .sequence first second, before, part, after =>
    ∃ front back, part = front ++ back ∧ first.Matches before front (back ++ after) ∧
      second.Matches (before ++ front) back after

/-- Some part of a text matches a pattern. -/
def FoundIn (pattern : Pattern) (t : Text) : Prop :=
  ∃ before part after, t = before ++ part ++ after ∧ pattern.Matches before part after

end Pattern

end Externs
