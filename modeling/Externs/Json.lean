import Externs.Assoc
import Externs.Number.Binary64

/-!
# JSON values

* `Json`: a value, with the entries of an object in order and with integers apart from other numbers;
* `Json.truthy`: what counts as a set flag or as a value that is present;
* `Json.typeName`: the name of a value's type in messages and log records;
* `Json.field`: the value under a key, where a missing key reads as null.
-/

namespace Externs

set_option autoImplicit false

/-- A JSON value. A number written with a fraction or an exponent is a `float`, any other one is an
`int`. -/
inductive Json where
  | null
  | bool (value : Bool)
  | int (value : Int)
  | float (value : Binary64)
  | str (value : Text)
  | arr (items : List Json)
  | obj (entries : List (Text × Json))
  deriving Inhabited

namespace Json

/-- Null, `false`, the zeros and all that is empty are false; any other value is true. -/
def truthy : Json → Bool
  | .null => false
  | .bool value => value
  | .int value => value != 0
  | .float value => !value.isZero
  | .str value => !value.isEmpty
  | .arr items => !items.isEmpty
  | .obj entries => !entries.isEmpty

/-- The name of a value's type. -/
def typeName : Json → String
  | .null => "NoneType"
  | .bool _ => "bool"
  | .int _ => "int"
  | .float _ => "float"
  | .str _ => "str"
  | .arr _ => "list"
  | .obj _ => "dict"

/-- The value under a key; null if there is none. -/
def field (key : Text) (entries : Assoc Json) : Json := (Assoc.lookup key entries).getD .null

/-- The value under a key of an object; null for any other value. -/
def get (key : Text) : Json → Json
  | .obj entries => field key entries
  | _ => .null

/-- The entries of an object. -/
def entries? : Json → Option (Assoc Json)
  | .obj entries => some entries
  | _ => none

/-- The items of an array. -/
def items? : Json → Option (List Json)
  | .arr items => some items
  | _ => none

/-- The text of a string. -/
def text? : Json → Option Text
  | .str value => some value
  | _ => none

end Json

end Externs
