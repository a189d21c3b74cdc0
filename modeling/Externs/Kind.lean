import Externs.Json

/-!
# Kinds of declarations

* `Kind`: the nine kinds;
* `Kind.ofText?`: the kind that a tag names, in any letter case;
* `Kind.isContainer`, `Kind.hasMembers`: which kinds hold further declarations.
-/

namespace Externs

set_option autoImplicit false

/-- What a declaration declares. -/
inductive Kind where
  | moduleKind
  | classKind
  | interfaceKind
  | functionKind
  | methodKind
  | propertyKind
  | variableKind
  | objectKind
  | enumKind
  deriving DecidableEq

namespace Kind

/-- Every kind once. -/
def all : List Kind :=
  [.moduleKind, .classKind, .interfaceKind, .functionKind, .methodKind, .propertyKind,
    .variableKind, .objectKind, .enumKind]

/-- The tag of a kind in small letters. -/
def name : Kind → String
  | .moduleKind => "module"
  | .classKind => "class"
  | .interfaceKind => "interface"
  | .functionKind => "function"
  | .methodKind => "method"
  | .propertyKind => "property"
  | .variableKind => "variable"
  | .objectKind => "object"
  | .enumKind => "enum"

/-- The kind that a tag names. Letter case does not matter; no letter beyond ASCII has a small form
that occurs in a tag. -/
def ofText? (tag : Text) : Option Kind :=
  all.find? fun kind => Text.ofString kind.name = tag.toAsciiLower

/-- The kind that a value names; only strings name one. -/
def ofJson? : Json → Option Kind
  | .str tag => ofText? tag
  | _ => none

/-- The kinds whose entries hold nested declarations. -/
def isContainer : Kind → Bool
  | .moduleKind | .classKind | .interfaceKind | .objectKind => true
  | _ => false

/-- The kinds that own a bucket of members. -/
def hasMembers : Kind → Bool
  | .classKind | .interfaceKind => true
  | _ => false

end Kind

end Externs
