import Externs.Text.CodePoint

/-!
# Control sequences

Texts may hold sequences that tell a terminal about colours and the cursor. Where no terminal reads
along, they are left out.

* `ControlSequence.length?`: the length of a sequence after its introducer;
* `Text.withoutControls`: a text without its control sequences.
-/

namespace Externs

set_option autoImplicit false

namespace ControlSequence

/-- The digits and marks that come first in a sequence. -/
def isParameter (p : CodePoint) : Bool := p.isBetween '0' '?'

/-- The marks that come between parameters and the end. -/
def isIntermediate (p : CodePoint) : Bool := p.isBetween ' ' '/'

/-- The letters and marks that end a sequence. -/
def isFinal (p : CodePoint) : Bool := p.isBetween '@' '~'

/-- How many code points the sequence takes whose introducer stands just before the text, if it is
complete. -/
def length? (t : Text) : Option Nat :=
  let parameters := t.takeWhile isParameter
  let intermediates := (t.drop parameters.length).takeWhile isIntermediate
  let before := parameters.length + intermediates.length
  if (t.drop before).head?.any isFinal then some (before + 1) else none

end ControlSequence

/-- The text without its control sequences; `skip` code points belong to a sequence already met. -/
def Text.withoutControlsFrom : Nat → Text → Text
  | _, [] => []
  | skip + 1, _ :: rest => withoutControlsFrom skip rest
  | 0, .scalar '\x1b' :: .scalar '[' :: rest =>
    match ControlSequence.length? rest with
    | some length => withoutControlsFrom (length + 1) (.scalar '[' :: rest)
    | none => .scalar '\x1b' :: withoutControlsFrom 0 (.scalar '[' :: rest)
  | 0, p :: rest => p :: withoutControlsFrom 0 rest

/-- The text without its control sequences. -/
def Text.withoutControls (t : Text) : Text := t.withoutControlsFrom 0

end Externs
