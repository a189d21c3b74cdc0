import Externs.Json.Wording

/-!
# Malformed trees

* `Malformed.Cause`: the rules that a tree may break;
* `Malformed`: a broken rule and where it was broken;
* `Malformed.message`: the text of the error.
-/

namespace Externs

set_option autoImplicit false

/-- The rule that a tree breaks. -/
inductive Malformed.Cause where
  /-- The root is a value of another type than a mapping. -/
  | rootNotMapping (typeName : String)
  /-- The tag of a node names no kind. -/
  | unknownKind (tag : Json)
  /-- A node of a known kind has no name. -/
  | missingName
  /-- The parameters of a node are no list. -/
  | parametersNotList
  /-- The parameter with this index is no mapping, or has no name. -/
  | badParameter (index : Nat)
  /-- The members of an enumeration are no list. -/
  | enumMembersNotList

/-- A broken rule, and the path of the node that breaks it. -/
structure Malformed where
  cause : Malformed.Cause
  path : Option Text

namespace Malformed

/-- What is wrong, without the place. -/
def Cause.message : Cause → Text
  | .rootNotMapping typeName => "expected a mapping for the root node, got " ++ typeName
  | .unknownKind tag => "unknown node kind " ++ tag.literal
  | .missingName => "missing qualifiedName"
  | .parametersNotList => "parameters must be a list"
  | .badParameter index => "parameter #" ++ Text.ofNat index ++ " must be a mapping with a name"
  | .enumMembersNotList => "enum members must be a list"

/-- A message after the place it is about. Without a place, or with an empty one, it stands alone. -/
def locate (path : Option Text) (message : Text) : Text :=
  match path with
  | none => message
  | some [] => message
  | some path => path ++ ": " ++ message

/-- The text of the error. -/
def message (error : Malformed) : Text := locate error.path error.cause.message

end Malformed

end Externs
