import Externs.Declaration.Block
import Externs.Log
import Externs.Node

/-!
# The walk over a tree

* `Visit`: what the walk meets;
* `Node.walk`: all that it meets, in order;
* `Visit.blocks`, `Visit.notices`: the blocks to write and the notices to send.
-/

namespace Externs

set_option autoImplicit false

/-- What the walk meets: a declaration to write, or one of an unknown kind. -/
inductive Visit where
  | block (text : Text)
  | skipped (kindTag name : Text)
  deriving DecidableEq

/-- The blocks among visits. -/
def Visit.blocks (visits : List Visit) : List Text :=
  visits.filterMap fun visit => match visit with
    | .block text => some text
    | .skipped _ _ => none

/-- The notices that visits call for. -/
def Visit.notices (visits : List Visit) : List Notice :=
  visits.filterMap fun visit => match visit with
    | .block _ => none
    | .skipped kindTag name => some (.skippedKind kindTag name)

/-- A declaration is met if it has a tag and a name. The root has no name. -/
def Declaration.visit (policy : NullPolicy) (name : Text) (d : Declaration) : List Visit :=
  match d.kindTag with
  | none => []
  | some kindTag =>
    if name.isEmpty then []
    else match d.block policy with
      | some text => [.block text]
      | none => [.skipped kindTag name]

/-- The walk goes on to the children of containers, and of nodes without a known kind. -/
def Declaration.opensChildren (d : Declaration) : Bool := d.kind?.all Kind.isContainer

/-- The walk goes on to the members of classes and interfaces. -/
def Declaration.opensMembers (d : Declaration) : Bool := d.kind?.any Kind.hasMembers

namespace Node

mutual

/-- The visits below and at a node with the given name: the node itself, its children, its members. -/
def walk (policy : NullPolicy) (name : Text) : Node → List Visit
  | ⟨declaration, members, children⟩ =>
    declaration.visit policy name ++
      (if declaration.opensChildren then walkAll policy children else []) ++
      (if declaration.opensMembers then walkAll policy members else [])

/-- The visits at nodes with their names, in order. -/
def walkAll (policy : NullPolicy) : List (Text × Node) → List Visit
  | [] => []
  | (name, node) :: rest => walk policy name node ++ walkAll policy rest

end

/-- The visits of a whole tree. -/
def visits (policy : NullPolicy) (tree : Node) : List Visit := tree.walk policy []

end Node

end Externs
