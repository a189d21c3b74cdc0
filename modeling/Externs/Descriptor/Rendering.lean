import Externs.Descriptor
import Externs.Text.Pattern

/-!
# Type annotations

* `NullPolicy`: whether types admit null by default;
* `NullPolicy.markFor`: the mark before an annotation;
* `Descriptor.render`: the annotation of a type;
* `Text.templatePattern`, `Text.mentionsTemplate`: the pattern for the name of the template parameter `T`, and
  the search for it.
-/

namespace Externs

set_option autoImplicit false

/-- What a type means that does not say whether it admits null. -/
inductive NullPolicy where
  | nullable
  | nonNull
  deriving DecidableEq

namespace NullPolicy

/-- The mark that says so. -/
def mark : NullPolicy → Text
  | .nullable => "?"
  | .nonNull => "!"

/-- The tokens that are never marked. -/
def unmarkedTokens : List Text := ["number", "boolean", "*", "T"]

/-- Whether a value is one of the tokens that are never marked. -/
def isUnmarked : Json → Bool
  | .str token => unmarkedTokens.contains token
  | _ => false

/-- The mark before the annotation of a value: none in an optional place and none before an unmarked
token. -/
def markValue (policy : NullPolicy) (value : Json) (optional : Bool) : Text :=
  if optional || isUnmarked value then [] else policy.mark

/-- The mark before the annotation of a type. -/
def markFor (policy : NullPolicy) (type : Descriptor) (optional : Bool) : Text :=
  match type with
  | .plain value => policy.markValue value optional
  | .record _ => policy.markValue .null optional

end NullPolicy

namespace Descriptor

/-- The sign at the end of an annotation in an optional place. -/
def optionalSign (optional : Bool) : Text := if optional then "=" else []

/-- The annotation of a token. -/
def renderToken (policy : NullPolicy) (value : Json) (optional : Bool) : Text :=
  policy.markValue value optional ++ value.token ++ optionalSign optional

/-- The annotation of a union. -/
def renderUnion (policy : NullPolicy) (items : List Json) (optional : Bool) : Text :=
  policy.markValue (.arr items) optional ++ "(" ++ Text.joinWith "|" (items.map Json.token) ++ ")" ++
    optionalSign optional

/-- The annotation of a structure with the given annotated fields. It never has the optional sign. -/
def renderRecord (policy : NullPolicy) (fields : List Text) (optional : Bool) : Text :=
  policy.markValue .null optional ++ "\x7b" ++ Text.joinWith ", " fields ++ "\x7d"

/-- A name with its annotation. -/
def renderField (name type : Text) : Text := name ++ ": " ++ type

mutual

/-- The annotation of a value that was not ingested. -/
def renderValue (policy : NullPolicy) : Json → Bool → Text
  | .arr items, optional => renderUnion policy items optional
  | .obj entries, optional => renderRecord policy (renderEntries policy entries) optional
  | value, optional => renderToken policy value optional

/-- The annotated fields of a structure that was not ingested. -/
def renderEntries (policy : NullPolicy) : List (Text × Json) → List Text
  | [] => []
  | (name, .obj entries) :: rest =>
    renderField name
        (renderType policy entries (Json.field Json.optionalKey entries).truthy) ::
      renderEntries policy rest
  | (name, value) :: rest =>
    renderField name (renderValue policy value false) :: renderEntries policy rest

/-- The annotation of what stands under the key of types. -/
def renderType (policy : NullPolicy) : List (Text × Json) → Bool → Text
  | [], optional => renderToken policy .null optional
  | (key, value) :: rest, optional =>
    if key = Json.typeKey then renderValue policy value optional
    else renderType policy rest optional

end

mutual

/-- The annotation of a type in a place that is optional or not. -/
def render (policy : NullPolicy) : Descriptor → Bool → Text
  | .plain value, optional => renderValue policy value optional
  | .record fields, optional => renderRecord policy (renderFields policy fields) optional

/-- The annotated fields of a structural type. -/
def renderFields (policy : NullPolicy) : List Field → List Text
  | [] => []
  | .mk name type optional :: rest =>
    renderField name (render policy type optional) :: renderFields policy rest

end

end Descriptor

/-- The pattern for what may stand before a word: the start of the text, or what is no part of a word. -/
def Text.beforeWord : Pattern := .either .start (.one fun p => !p.isWord)

/-- The pattern for what may stand after a word. -/
def Text.afterWord : Pattern := .either .finish (.one fun p => !p.isWord)

/-- The pattern for `T` as a word of its own. -/
def Text.templatePattern : Pattern :=
  .sequence beforeWord (.sequence (.one (· = .scalar 'T')) afterWord)

/-- Whether `T` stands in the text as a word of its own. `before` says whether the code point before
the text belongs to a word. -/
def Text.mentionsTemplateAfter : Bool → Text → Bool
  | _, [] => false
  | before, p :: rest =>
    (!before && p = .scalar 'T' && !(rest.head?.any CodePoint.isWord)) ||
      mentionsTemplateAfter p.isWord rest

/-- Whether `T` stands in the text as a word of its own. -/
def Text.mentionsTemplate (t : Text) : Bool := Text.mentionsTemplateAfter false t

end Externs
