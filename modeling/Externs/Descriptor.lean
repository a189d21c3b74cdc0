import Externs.Json.Wording

/-!
# Type descriptors

A type is given by a token, by a union of tokens, or by a structure of named fields that are types
themselves. Ingestion turns the mappings of a tree into structures; any other value stays as it is.

* `Descriptor`, `Descriptor.Field`: a type and a field of a structural type;
* `Descriptor.ofJson`: the type that a value of the tree describes;
* `Descriptor.isDeclared`: whether there is a type at all;
* `Descriptor.plainText`: the tokens of a type, where a template parameter is looked for.
-/

namespace Externs

set_option autoImplicit false

mutual

/-- A type. A `plain` one is a value as it stands in the tree: an array is a union, an object is a
structure that was not ingested, and anything else is a token. -/
inductive Descriptor where
  | plain (value : Json)
  | record (fields : List Descriptor.Field)

/-- A named field of a structural type. -/
inductive Descriptor.Field where
  | mk (name : Text) (type : Descriptor) (optional : Bool)

end

instance : Inhabited Descriptor := ⟨.plain .null⟩

/-- The key of a type, in declarations, parameters and fields alike. -/
def Json.typeKey : Text := "type"

/-- The key of the flag that makes something optional. -/
def Json.optionalKey : Text := "isOptional"

namespace Descriptor

mutual

/-- The type that a value describes: an object is a structural type. -/
def ofJson : Json → Descriptor
  | .obj entries => .record (fieldsOf entries)
  | value => .plain value

/-- The fields that the entries of a structural type describe. An entry is an object with a type and
a flag, or else the type itself. -/
def fieldsOf : List (Text × Json) → List Field
  | [] => []
  | (name, .obj entries) :: rest =>
    .mk name (typeOf entries) (Json.field Json.optionalKey entries).truthy :: fieldsOf rest
  | (name, value) :: rest => .mk name (.plain value) false :: fieldsOf rest

/-- The type that stands under the key of types. -/
def typeOf : List (Text × Json) → Descriptor
  | [] => .plain .null
  | (key, value) :: rest => if key = Json.typeKey then ofJson value else typeOf rest

end

theorem typeOf_eq (entries : Assoc Json) :
    typeOf entries = ofJson (Json.field Json.typeKey entries) := by
  induction entries with
  | nil => simp [typeOf, Json.field, Assoc.lookup, ofJson]
  | cons entry rest ih =>
    obtain ⟨key, value⟩ := entry
    by_cases h : key = Json.typeKey
    · simp [typeOf, Json.field, Assoc.lookup, h]
    · rw [typeOf, if_neg h, ih]
      simp [Json.field, Assoc.lookup, h]

/-- Unions and structures always count as types, even empty ones; a token counts unless it is false. -/
def isDeclared : Descriptor → Bool
  | .plain (.arr _) => true
  | .plain (.obj _) => true
  | .plain value => value.truthy
  | .record _ => true

/-- The type that stands for a missing one: anything. -/
def wildcard : Descriptor := .plain (.str "*")

/-- The type itself if it is declared, and the wildcard otherwise. -/
def orWildcard (type : Descriptor) : Descriptor := if type.isDeclared then type else wildcard

/-- The tokens of a type as one text. A structural type has none. -/
def plainText : Descriptor → Text
  | .plain (.arr items) => Text.joinWith "," (items.map Json.token)
  | .plain (.obj _) => []
  | .plain value => value.token
  | .record _ => []

end Descriptor

end Externs
