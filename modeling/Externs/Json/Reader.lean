import Externs.Json.Lexeme

/-!
# Reading JSON

The lexemes of a text are put together from left to right, with the containers that are still open on a
stack. The first lexeme that cannot stand where it stands decides the fault.

* `JsonReader.Frame`: a container that is still open;
* `JsonReader.Mode`: what may come next;
* `Json.parse`: the value of a text;
* `JsonFault.message`: the fault in words, with its line and column.
-/

namespace Externs

set_option autoImplicit false

namespace JsonReader

/-- A container that is still open: an array with its items so far, the last one first, or an object
with its entries so far and the name of the entry to come. -/
inductive Frame where
  | array (done : List Json)
  | object (done : Assoc Json) (name : Text)

/-- What may come next. -/
inductive Mode where
  /-- A value. -/
  | value
  /-- The first item of an array, or its end. -/
  | firstItem
  /-- The first name of an object, or its end. -/
  | firstName
  /-- The name of a further entry of an object. -/
  | nextName (done : Assoc Json)
  /-- The colon after a name. -/
  | colon (done : Assoc Json) (name : Text)
  /-- What follows a complete value. -/
  | after (value : Json)

/-- Reads on from the given mode, with the open containers from the inside out. -/
def read : Mode → List Frame → List (Nat × Lexeme) → Except JsonFault Json
  | _, _, [] => .error ⟨.wantsValue, 0⟩
  | mode, frames, (position, lexeme) :: rest =>
    match mode, frames, lexeme with
    | .firstItem, .array _ :: frames, .closeBracket => read (.after (.arr [])) frames rest
    | .firstItem, frames, .openBrace | .value, frames, .openBrace => read .firstName frames rest
    | .firstItem, frames, .openBracket | .value, frames, .openBracket =>
      read .firstItem (.array [] :: frames) rest
    | .firstItem, frames, .scalar value | .value, frames, .scalar value =>
      read (.after value) frames rest
    | .firstItem, frames, .string value | .value, frames, .string value =>
      read (.after (.str value)) frames rest
    | .firstItem, _, .broken fault | .value, _, .broken fault => .error fault
    | .firstItem, _, _ | .value, _, _ => .error ⟨.wantsValue, position⟩
    | .firstName, frames, .closeBrace => read (.after (.obj [])) frames rest
    | .firstName, frames, .string name => read (.colon [] name) frames rest
    | .nextName done, frames, .string name => read (.colon done name) frames rest
    | .firstName, _, .broken fault | .nextName _, _, .broken fault =>
      .error (nameFault position fault)
    | .firstName, _, _ | .nextName _, _, _ => .error ⟨.wantsName, position⟩
    | .colon done name, frames, .colon => read .value (.object done name :: frames) rest
    | .colon _ _, _, _ => .error ⟨.wantsColon, position⟩
    | .after value, [], .finish => .ok value
    | .after _, [], _ => .error ⟨.extraData, position⟩
    | .after value, .array done :: frames, .comma => read .value (.array (value :: done) :: frames) rest
    | .after value, .array done :: frames, .closeBracket =>
      read (.after (.arr (value :: done).reverse)) frames rest
    | .after value, .object done name :: frames, .comma =>
      read (.nextName (done.insert name value)) frames rest
    | .after value, .object done name :: frames, .closeBrace =>
      read (.after (.obj (done.insert name value))) frames rest
    | .after _, _ :: _, _ => .error ⟨.wantsComma, position⟩
where
  /-- Where a name is wanted, a number is out of place whatever its length; only strings are read. -/
  nameFault (position : Nat) (fault : JsonFault) : JsonFault :=
    if fault.problem = .oversizedInteger then ⟨.wantsName, position⟩ else fault

end JsonReader

/-- The value of a JSON text. A text must not start with a byte order mark. -/
def Json.parse (t : Text) : Except JsonFault Json :=
  if t.head? = some (.ofNat 0xFEFF) then .error ⟨.byteOrderMark, 0⟩
  else JsonReader.read .value [] (Lexeme.scan t)

/-- What is wrong, in words. -/
def JsonProblem.message : JsonProblem → String
  | .byteOrderMark => "Unexpected UTF-8 BOM (decode using utf-8-sig)"
  | .wantsValue => "Expecting value"
  | .wantsName => "Expecting property name enclosed in double quotes"
  | .wantsColon => "Expecting ':' delimiter"
  | .wantsComma => "Expecting ',' delimiter"
  | .unterminatedString => "Unterminated string starting at"
  | .controlCharacter => "Invalid control character at"
  | .badEscape => "Invalid \\escape"
  | .badUnicodeEscape => "Invalid \\uXXXX escape"
  | .extraData => "Extra data"
  | .oversizedInteger => "Exceeds the limit (4300 digits) for integer string conversion"

/-- The fault in words. Lines and columns count from one, code points from zero. -/
def JsonFault.message (fault : JsonFault) (source : Text) : Text :=
  let before := source.take fault.position
  let line := before.count Text.lineFeed + 1
  let column := (before.reverse.takeWhile (· != Text.lineFeed)).length + 1
  fault.problem.message ++ ": line " ++ Text.ofNat line ++ " column " ++ Text.ofNat column ++
    " (char " ++ Text.ofNat fault.position ++ ")"

end Externs
