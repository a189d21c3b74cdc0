import Externs.Declaration

/-!
# Declaration trees

* `Node`: a declaration with its members and the declarations nested in it;
* `Node.Position`: a way down from the root;
* `Node.at?`: the node at a position;
* `Node.Attribute`, `Declaration.assign`, `Node.assign`: the change of one attribute of one node.
-/

namespace Externs

set_option autoImplicit false

/-- A node of the tree. Members are found in the bucket of a class or an interface, children under any
key that is not reserved; both keep their order. -/
structure Node where
  declaration : Declaration
  members : List (Text × Node)
  children : List (Text × Node)

namespace Node

/-- The two collections of nodes below a node. -/
inductive Branch where
  | members
  | children
  deriving DecidableEq

/-- The keys that lead from the root to a node. -/
abbrev Position := List (Branch × Text)

/-- The nodes below a node on one branch. -/
def along (node : Node) : Branch → Assoc Node
  | .members => node.members
  | .children => node.children

/-- The node at a position. -/
def at? : Position → Node → Option Node
  | [], node => some node
  | (branch, key) :: rest, node => (Assoc.lookup key (node.along branch)).bind (at? rest)

/-- The tree with the declaration at a position changed. -/
def modifyAt (f : Declaration → Declaration) : Position → Node → Node
  | [], node => { node with declaration := f node.declaration }
  | (.members, key) :: rest, node =>
    { node with members := Assoc.modify key (modifyAt f rest) node.members }
  | (.children, key) :: rest, node =>
    { node with children := Assoc.modify key (modifyAt f rest) node.children }

/-- The attributes of a declaration that may be assigned. -/
inductive Attribute where
  | kind
  | qualifiedName
  | type
  | isOptional
  | isStatic
  | extended
  | implemented
  deriving DecidableEq

end Node

/-- The value in generated code, unless it is null. -/
def Json.nonNullToken : Json → Option Text
  | .null => none
  | value => some value.token

/-- Assigns a value to an attribute without ingesting it: a type stays as it is, even if it is a
mapping. -/
def Declaration.assign (d : Declaration) (part : Node.Attribute) (value : Json) : Declaration :=
  match part with
  | .kind => { d with kindTag := value.presentText }
  | .qualifiedName => { d with qualifiedName := value.nonNullToken }
  | .type => { d with type := .plain value }
  | .isOptional => { d with isOptional := value.truthy }
  | .isStatic => { d with isStatic := value.truthy }
  | .extended => { d with extended := value.presentText }
  | .implemented => { d with implemented := value.presentText }

/-- Assigns a value to an attribute of the node at a position. -/
def Node.assign (position : Node.Position) (part : Node.Attribute) (value : Json) : Node → Node :=
  Node.modifyAt (·.assign part value) position

end Externs
