import Externs.Assoc
import Externs.Text.Utf8

/-!
# The environment

A process keeps its variables as bytes. As texts they have escapes for what is not UTF-8.

* `Environment.insert`: a variable set anew;
* `Environment.ofTexts`: the variables that texts were set to, as the process gives them back;
* `Environment.ofBlock`: the variables in a block of bytes, each ended by a zero byte.
-/

namespace Externs

set_option autoImplicit false

/-- The variables of a process by name. -/
abbrev Environment := Assoc Text

namespace Environment

/-- The environment with a variable set anew. -/
def insert (environment : Environment) (name value : Text) : Environment :=
  Assoc.insert (Utf8.settled name) (Utf8.settled value) environment

/-- The environment after texts were set in order. Names that are the same bytes are one variable. -/
def ofTexts (texts : Assoc Text) : Environment :=
  texts.foldl (fun environment (name, value) => environment.insert name value) []

/-- The pieces between zero bytes. -/
def splitAtZero (bytes : List UInt8) : List (List UInt8) :=
  bytes.foldr (fun b pieces => match b, pieces with
    | 0, pieces => [] :: pieces
    | b, piece :: pieces => (b :: piece) :: pieces
    | b, [] => [[b]]) [[]]

/-- The name and the value in a piece of a block. A piece without an equals sign has neither. -/
def entryOf? (piece : List UInt8) : Option (Text × Text) :=
  let equals := UInt8.ofNat '='.toNat
  let name := piece.takeWhile (· != equals)
  if name.length < piece.length then
    some (Utf8.decodeEscaped name, Utf8.decodeEscaped (piece.drop (name.length + 1)))
  else none

/-- The variables in a block of bytes. -/
def ofBlock (bytes : List UInt8) : Environment :=
  Assoc.merge [] ((splitAtZero bytes).filterMap entryOf?)

end Environment

end Externs
