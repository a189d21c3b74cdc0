import Externs.Json
import Externs.Number.Shortest
import Externs.Text.Quoted

/-!
# Values as text

Any value may stand where a declaration wants a name or a type, so every value has a text.

* `Json.literal`: a value as it is shown inside a list, a mapping or a message;
* `Json.wording`: the same, but a string stands for itself;
* `Json.token`: a value in generated code, where null is nothing.
-/

namespace Externs.Json

set_option autoImplicit false

mutual

/-- The value with strings in quotes. -/
def literal : Json → Text
  | .null => "None"
  | .bool true => "True"
  | .bool false => "False"
  | .int value => Text.ofInt value
  | .float value => value.text
  | .str value => value.quoted
  | .arr items => "[" ++ Text.joinWith ", " (literals items) ++ "]"
  | .obj entries => "\x7b" ++ Text.joinWith ", " (entryLiterals entries) ++ "\x7d"

/-- The items of a list, each as a literal. -/
def literals : List Json → List Text
  | [] => []
  | item :: rest => literal item :: literals rest

/-- The entries of a mapping, each as a quoted key and a literal. -/
def entryLiterals : List (Text × Json) → List Text
  | [] => []
  | (key, value) :: rest => (key.quoted ++ ": " ++ literal value) :: entryLiterals rest

end

/-- The value as text: a string stands for itself, any other value for its literal. -/
def wording : Json → Text
  | .str value => value
  | value => value.literal

/-- The value in generated code. Null has no text, and booleans are written in small letters. -/
def token : Json → Text
  | .null => ""
  | .bool true => "true"
  | .bool false => "false"
  | value => value.wording

end Externs.Json
