import Externs.Descriptor
import Externs.Kind

/-!
# Declarations

* `Parameter`, `EnumMember`: the parts of a declaration that come in lists;
* `Declaration`: what one node of the tree declares, without the nodes below it;
* `Declaration.ofEntries`: the declaration that the entries of a node describe.
-/

namespace Externs

set_option autoImplicit false

/-- A parameter of a function or a constructor. -/
structure Parameter where
  name : Text
  type : Descriptor
  optional : Bool
  spread : Bool

/-- A named value of an enumeration. -/
structure EnumMember where
  name : Text
  value : Json

/-- What a node declares. The kind is kept as the tag of the tree, which may name no kind at all. -/
structure Declaration where
  kindTag : Option Text
  qualifiedName : Option Text
  parameters : List Parameter
  type : Descriptor
  isStatic : Bool
  isOptional : Bool
  isSpread : Bool
  /-- The class that a class extends. -/
  extended : Option Text
  /-- The interface that a class implements. -/
  implemented : Option Text
  enumMembers : List EnumMember

namespace Json

/-- The keys of the parts of a declaration. -/
def kindKey : Text := "kind"
def qualifiedNameKey : Text := "qualifiedName"
def parametersKey : Text := "parameters"
def staticKey : Text := "isStatic"
def spreadKey : Text := "isSpread"
def extendsKey : Text := "extends"
def implementsKey : Text := "implements"
def nameKey : Text := "name"
def valueKey : Text := "value"

/-- The short key of a bucket of members. -/
def bucketKey : Text := "#"

/-- The key of the values of an enumeration, and the long key of a bucket of members. -/
def membersKey : Text := "members"

/-- The keys that hold parts of a declaration and never a nested declaration. -/
def reservedKeys : List Text :=
  [kindKey, qualifiedNameKey, parametersKey, staticKey, typeKey, spreadKey, optionalKey, extendsKey,
    implementsKey, bucketKey]

/-- The text of a value that counts as present. -/
def presentText (value : Json) : Option Text := if value.truthy then some value.wording else none

/-- The text of a value that is not null. -/
def nonNullText : Json → Option Text
  | .null => none
  | value => some value.wording

/-- The text under the key of names. A missing name is empty. -/
def nameText (entries : Assoc Json) : Text := ((Assoc.lookup nameKey entries).map wording).getD []

end Json

/-- The parameter that an object describes. Other values describe none. -/
def Parameter.ofJson? : Json → Option Parameter
  | .obj entries => some
    { name := Json.nameText entries
      type := Descriptor.ofJson (Json.field Json.typeKey entries)
      optional := (Json.field Json.optionalKey entries).truthy
      spread := (Json.field Json.spreadKey entries).truthy }
  | _ => none

/-- The member of an enumeration that an object describes. Other values describe none. -/
def EnumMember.ofJson? : Json → Option EnumMember
  | .obj entries => some
    { name := Json.nameText entries
      value := Json.field Json.valueKey entries }
  | _ => none

namespace Declaration

/-- The known kind of a declaration. -/
def kind? (d : Declaration) : Option Kind := d.kindTag.bind Kind.ofText?

/-- The qualified name as it stands in generated code. -/
def nameToken (d : Declaration) : Text := d.qualifiedName.getD []

/-- The declaration that the entries of a node describe. Parts that are missing or of the wrong shape
are left out. -/
def ofEntries (entries : Assoc Json) : Declaration where
  kindTag := (Json.field Json.kindKey entries).presentText
  qualifiedName := (Json.field Json.qualifiedNameKey entries).nonNullText
  parameters := ((Json.field Json.parametersKey entries).items?.getD []).filterMap Parameter.ofJson?
  type := Descriptor.ofJson (Json.field Json.typeKey entries)
  isStatic := (Json.field Json.staticKey entries).truthy
  isOptional := (Json.field Json.optionalKey entries).truthy
  isSpread := (Json.field Json.spreadKey entries).truthy
  extended := (Json.field Json.extendsKey entries).presentText
  implemented := (Json.field Json.implementsKey entries).presentText
  enumMembers := ((Json.field Json.membersKey entries).items?.getD []).filterMap EnumMember.ofJson?

end Declaration

end Externs
