import Externs.Proofs.Walked

/-!
# A change of one node

A node is written from its own declaration, and the walk goes on by the kinds of nodes alone. So a change
of one declaration leaves all blocks but its own as they were, unless it changes the kind; then what lies
below the node may be written or not, and all else stays.

* `Node.isReached`: whether the walk comes to a position;
* `Node.blockAt?`: the block of the node at a position, if it is written;
* `Node.blocksFrom`: the blocks that are written from a position on, down the tree;
* `Node.Within`: a node and its descendants;
* `Node.walked_modifyAt`, `Node.blocks_modifyAt`: the walk and the blocks before, at and after a position;
* `Document.assignment_is_local`: the blocks before and after an assignment.
-/

namespace Externs

set_option autoImplicit false

/-- Whether the walk goes on from a declaration along a branch. -/
def Declaration.opens (d : Declaration) : Node.Branch → Bool
  | .members => d.opensMembers
  | .children => d.opensChildren

namespace Node

/-! ## Positions and the walk -/

/-- Whether the walk comes to a position: every node on the way there is left along its branch. -/
def isReached : Position → Node → Bool
  | [], _ => true
  | (branch, key) :: rest, node =>
    node.declaration.opens branch && (Assoc.lookup key (node.along branch)).any (isReached rest)

/-- The name under which the walk comes to a position: the last key, or else the name at the start. -/
def nameAt (name : Text) : Position → Text
  | [] => name
  | (_, key) :: rest => nameAt key rest

/-- The node with another declaration. -/
def withDeclaration (f : Declaration → Declaration) (node : Node) : Node :=
  { node with declaration := f node.declaration }

/-- The nodes that the walk comes to below a node. -/
def walkedBelow (node : Node) : List (Text × Declaration) :=
  (if node.declaration.opensChildren then walkedAll node.children else []) ++
    (if node.declaration.opensMembers then walkedAll node.members else [])

theorem walked_eq (name : Text) (node : Node) :
    node.walked name = (name, node.declaration) :: node.walkedBelow := by
  obtain ⟨declaration, members, children⟩ := node
  simp [walked, walkedBelow]

theorem walkedAll_append (first second : List (Text × Node)) :
    walkedAll (first ++ second) = walkedAll first ++ walkedAll second := by
  induction first with
  | nil => rfl
  | cons entry rest ih =>
    obtain ⟨name, node⟩ := entry
    simp [walkedAll, ih]

/-- A change of one node of a list leaves what the walk over the list comes to before and after it. -/
theorem walkedAll_modify {key : Text} {child : Node} {nodes : List (Text × Node)}
    (h : Assoc.lookup key nodes = some child) :
    ∃ front back, walkedAll nodes = front ++ child.walked key ++ back ∧
      ∀ f, walkedAll (Assoc.modify key f nodes) = front ++ (f child).walked key ++ back := by
  obtain ⟨before, after, hsplit, hmodify⟩ := Assoc.exists_split_of_lookup h
  refine ⟨walkedAll before, walkedAll after, ?_, fun f => ?_⟩
  · rw [hsplit, walkedAll_append, walkedAll, List.append_assoc]
  · rw [hmodify, walkedAll_append, walkedAll, List.append_assoc]

theorem at?_cons_eq_some {branch : Branch} {key : Text} {rest : Position} {tree node : Node}
    (h : tree.at? ((branch, key) :: rest) = some node) :
    ∃ child, Assoc.lookup key (tree.along branch) = some child ∧ child.at? rest = some node :=
  Option.bind_eq_some_iff.mp h

/-- **The walk before, at and after a position.** If a declaration is changed, the walk comes to the same
nodes before it and after all that lies below it. -/
theorem walked_modifyAt {position : Position} {tree node : Node} (h : tree.at? position = some node)
    (name : Text) :
    ∃ pre post,
      tree.walked name = pre ++
        (if tree.isReached position then node.walked (nameAt name position) else []) ++ post ∧
      ∀ f, (tree.modifyAt f position).walked name = pre ++
        (if tree.isReached position then (node.withDeclaration f).walked (nameAt name position) else []) ++
          post := by
  induction position generalizing tree name with
  | nil =>
    obtain rfl : tree = node := Option.some.inj h
    refine ⟨[], [], ?_, fun f => ?_⟩
    · simp [isReached, nameAt]
    · simp [isReached, nameAt, modifyAt, withDeclaration]
  | cons step rest ih =>
    obtain ⟨branch, key⟩ := step
    obtain ⟨child, hlook, hat⟩ := at?_cons_eq_some h
    obtain ⟨pre, post, hbefore, hafter⟩ := ih hat key
    obtain ⟨front, back, hall, hchanged⟩ := walkedAll_modify hlook
    have hreached : tree.isReached ((branch, key) :: rest) =
        (tree.declaration.opens branch && child.isReached rest) := by
      simp [isReached, hlook]
    obtain ⟨declaration, members, children⟩ := tree
    cases hopens : declaration.opens branch with
    | false =>
      -- The walk does not go along this branch, so nothing that it comes to changes.
      have hnot : isReached ((branch, key) :: rest) ⟨declaration, members, children⟩ = false := by
        rw [hreached, hopens, Bool.false_and]
      refine ⟨walked name ⟨declaration, members, children⟩, [], by simp [hnot], fun f => ?_⟩
      cases branch with
      | children =>
        have hclosed : declaration.opensChildren = false := hopens
        simp [hnot, modifyAt, walked, hclosed]
      | members =>
        have hclosed : declaration.opensMembers = false := hopens
        simp [hnot, modifyAt, walked, hclosed]
    | true =>
      have hsame : isReached ((branch, key) :: rest) ⟨declaration, members, children⟩ =
          child.isReached rest := by
        rw [hreached, hopens, Bool.true_and]
      cases branch with
      | children =>
        have hopen : declaration.opensChildren = true := hopens
        simp only [along] at hall hchanged
        refine ⟨(name, declaration) :: (front ++ pre),
          post ++ back ++ (if declaration.opensMembers then walkedAll members else []), ?_, fun f => ?_⟩
        · rw [hsame, walked, hopen, hall, hbefore]
          simp [nameAt]
        · rw [hsame, modifyAt, walked, hopen, hchanged, hafter]
          simp [nameAt]
      | members =>
        have hopen : declaration.opensMembers = true := hopens
        simp only [along] at hall hchanged
        refine ⟨(name, declaration) ::
          ((if declaration.opensChildren then walkedAll children else []) ++ front ++ pre),
          post ++ back, ?_, fun f => ?_⟩
        · rw [hsame, walked, hopen, hall, hbefore]
          simp [nameAt]
        · rw [hsame, modifyAt, walked, hopen, hchanged, hafter]
          simp [nameAt]

/-! ## The node after a change -/

theorem along_modifyAt (f : Declaration → Declaration) (branch : Branch) (key : Text) (rest : Position)
    (tree : Node) :
    (tree.modifyAt f ((branch, key) :: rest)).along branch =
      Assoc.modify key (modifyAt f rest) (tree.along branch) := by
  cases branch <;> rfl

theorem declaration_modifyAt_cons (f : Declaration → Declaration) (step : Branch × Text) (rest : Position)
    (tree : Node) : (tree.modifyAt f (step :: rest)).declaration = tree.declaration := by
  obtain ⟨branch, key⟩ := step
  cases branch <;> rfl

theorem at?_modifyAt (f : Declaration → Declaration) (position : Position) (tree : Node) :
    (tree.modifyAt f position).at? position = (tree.at? position).map (withDeclaration f) := by
  induction position generalizing tree with
  | nil => rfl
  | cons step rest ih =>
    obtain ⟨branch, key⟩ := step
    rw [at?, along_modifyAt, Assoc.lookup_modify_self, at?]
    cases Assoc.lookup key (tree.along branch) with
    | none => rfl
    | some child => exact ih child

/-- Whether the walk comes to a node does not depend on the node. -/
theorem isReached_modifyAt (f : Declaration → Declaration) (position : Position) (tree : Node) :
    (tree.modifyAt f position).isReached position = tree.isReached position := by
  induction position generalizing tree with
  | nil => rfl
  | cons step rest ih =>
    obtain ⟨branch, key⟩ := step
    rw [isReached, along_modifyAt, Assoc.lookup_modify_self, declaration_modifyAt_cons, isReached]
    cases Assoc.lookup key (tree.along branch) with
    | none => rfl
    | some child => simp [ih child]

/-! ## Blocks -/

/-- The blocks that are written at nodes. -/
def blocksOf (policy : NullPolicy) (nodes : List (Text × Declaration)) : List Text :=
  (nodes.filterMap fun (name, declaration) => writtenAt? name declaration).map
    fun (kind, d) => d.blockOf policy kind

theorem blocksOf_append (policy : NullPolicy) (first second : List (Text × Declaration)) :
    blocksOf policy (first ++ second) = blocksOf policy first ++ blocksOf policy second := by
  simp [blocksOf]

/-- The block at a node with a name, if it is written. -/
def blockUnder? (policy : NullPolicy) (name : Text) (d : Declaration) : Option Text :=
  (writtenAt? name d).map fun (kind, d) => d.blockOf policy kind

theorem blocksOf_cons (policy : NullPolicy) (name : Text) (d : Declaration)
    (rest : List (Text × Declaration)) :
    blocksOf policy ((name, d) :: rest) = (blockUnder? policy name d).toList ++ blocksOf policy rest := by
  unfold blocksOf blockUnder?
  cases hwritten : writtenAt? name d with
  | none => simp [hwritten]
  | some written => simp [hwritten]

theorem isSome_blockUnder? (policy : NullPolicy) (name : Text) (d : Declaration) :
    (blockUnder? policy name d).isSome = (!name.isEmpty && d.kind?.isSome) := by
  unfold blockUnder? writtenAt?
  cases name.isEmpty <;> simp

theorem block_of_blockUnder? {policy : NullPolicy} {name block : Text} {d : Declaration}
    (h : blockUnder? policy name d = some block) : d.block policy = some block := by
  unfold blockUnder? writtenAt? at h
  split at h
  · cases h
  · simpa [Declaration.block] using h

/-- The block of the node at a position, if the walk comes to it and it is written. -/
def blockAt? (policy : NullPolicy) (position : Position) (tree : Node) : Option Text :=
  if tree.isReached position then
    (tree.at? position).bind fun node => blockUnder? policy (nameAt [] position) node.declaration
  else none

/-- The blocks of the node at a position and of what lies below it, as far as they are written. -/
def blocksFrom (policy : NullPolicy) (position : Position) (tree : Node) : List Text :=
  if tree.isReached position then
    ((tree.at? position).map fun node => blocksOf policy (node.walked (nameAt [] position))).getD []
  else []

/-- `below.Within node`: the node itself, or one of its descendants. -/
inductive Within : Node → Node → Prop where
  | self (node : Node) : Within node node
  | child {below child node : Node} {key : Text} (hchild : (key, child) ∈ node.children)
      (h : Within below child) : Within below node
  | member {below member node : Node} {key : Text} (hmember : (key, member) ∈ node.members)
      (h : Within below member) : Within below node

mutual

theorem within_of_mem_walked (name : Text) : (node : Node) → ∀ {other : Text} {d : Declaration},
    (other, d) ∈ node.walked name → ∃ below : Node, below.Within node ∧ below.declaration = d
  | ⟨declaration, members, children⟩, other, d, h => by
    rw [walked, List.mem_cons, List.mem_append] at h
    rcases h with heq | hchild | hmember
    · exact ⟨_, .self _, (Prod.mk.inj heq).2.symm⟩
    · split at hchild
      · obtain ⟨key, child, hmem, below, hbelow, hd⟩ := within_of_mem_walkedAll children hchild
        exact ⟨below, .child hmem hbelow, hd⟩
      · cases hchild
    · split at hmember
      · obtain ⟨key, member, hmem, below, hbelow, hd⟩ := within_of_mem_walkedAll members hmember
        exact ⟨below, .member hmem hbelow, hd⟩
      · cases hmember

theorem within_of_mem_walkedAll : (nodes : List (Text × Node)) → ∀ {other : Text} {d : Declaration},
    (other, d) ∈ walkedAll nodes →
      ∃ key node, (key, node) ∈ nodes ∧ ∃ below : Node, below.Within node ∧ below.declaration = d
  | [], other, d, h => by cases h
  | (key, node) :: rest, other, d, h => by
    rw [walkedAll, List.mem_append] at h
    rcases h with hfirst | hrest
    · exact ⟨key, node, List.mem_cons_self, within_of_mem_walked key node hfirst⟩
    · obtain ⟨k, n, hmem, hbelow⟩ := within_of_mem_walkedAll rest hrest
      exact ⟨k, n, List.mem_cons_of_mem _ hmem, hbelow⟩

end

/-- What is written from a node on are blocks of the node and its descendants. -/
theorem within_of_mem_blocksOf {policy : NullPolicy} {name block : Text} {node : Node}
    (h : block ∈ blocksOf policy (node.walked name)) :
    ∃ below : Node, below.Within node ∧ below.declaration.block policy = some block := by
  obtain ⟨⟨kind, d⟩, hwritten, rfl⟩ := List.mem_map.mp h
  obtain ⟨⟨other, declaration⟩, hwalked, hat⟩ := List.mem_filterMap.mp hwritten
  have hunder : blockUnder? policy other declaration = some (d.blockOf policy kind) := by
    simp only at hat
    rw [blockUnder?, hat]
    rfl
  obtain ⟨below, hbelow, rfl⟩ := within_of_mem_walked name node hwalked
  exact ⟨below, hbelow, block_of_blockUnder? hunder⟩

end Node

/-! ## Assignments -/

theorem Declaration.kind?_assign {part : Node.Attribute} (h : part ≠ .kind) (d : Declaration)
    (value : Json) : (d.assign part value).kind? = d.kind? := by
  cases part with
  | kind => exact absurd rfl h
  | _ => rfl

theorem Node.walkedBelow_assign {part : Node.Attribute} (h : part ≠ .kind) (value : Json) (node : Node) :
    (node.withDeclaration (·.assign part value)).walkedBelow = node.walkedBelow := by
  have hkind := Declaration.kind?_assign h node.declaration value
  have hchildren : (node.declaration.assign part value).opensChildren = node.declaration.opensChildren := by
    unfold Declaration.opensChildren
    rw [hkind]
  have hmembers : (node.declaration.assign part value).opensMembers = node.declaration.opensMembers := by
    unfold Declaration.opensMembers
    rw [hkind]
  simp only [Node.walkedBelow, Node.withDeclaration, hchildren, hmembers]

namespace Node

theorem isReached_assign (position : Position) (part : Attribute) (value : Json) (tree : Node) :
    (tree.assign position part value).isReached position = tree.isReached position :=
  isReached_modifyAt _ position tree

section Changed

variable (policy : NullPolicy) {tree node : Node} {position : Position} (h : tree.at? position = some node)
include h

theorem blocksFrom_eq : tree.blocksFrom policy position =
    if tree.isReached position then blocksOf policy (node.walked (nameAt [] position)) else [] := by
  rw [blocksFrom, h, Option.map_some, Option.getD_some]

/-- A node comes before what lies below it. -/
theorem blocksFrom_eq_append : tree.blocksFrom policy position =
    (tree.blockAt? policy position).toList ++
      (if tree.isReached position then blocksOf policy node.walkedBelow else []) := by
  rw [blocksFrom_eq policy h, blockAt?, h]
  cases tree.isReached position with
  | false => rfl
  | true => simp [walked_eq, blocksOf_cons]

theorem within_of_mem_blocksFrom {block : Text} (hblock : block ∈ tree.blocksFrom policy position) :
    ∃ below : Node, below.Within node ∧ below.declaration.block policy = some block := by
  rw [blocksFrom_eq policy h] at hblock
  split at hblock
  · exact within_of_mem_blocksOf hblock
  · cases hblock

theorem blocks_modifyAt : ∃ pre post : List Text,
    Visit.blocks (tree.visits policy) = pre ++ tree.blocksFrom policy position ++ post ∧
    ∀ f, Visit.blocks ((tree.modifyAt f position).visits policy) =
      pre ++ (tree.modifyAt f position).blocksFrom policy position ++ post := by
  have hblocks (tree : Node) : Visit.blocks (tree.visits policy) = blocksOf policy (tree.walked []) :=
    blocks_visits policy tree
  obtain ⟨pre, post, hbefore, hafter⟩ := walked_modifyAt h []
  refine ⟨blocksOf policy pre, blocksOf policy post, ?_, fun f => ?_⟩
  · rw [hblocks, hbefore, blocksOf_append, blocksOf_append, blocksFrom_eq policy h]
    split <;> rfl
  · have hat : (tree.modifyAt f position).at? position = some (node.withDeclaration f) := by
      rw [at?_modifyAt, h, Option.map_some]
    rw [hblocks, hafter, blocksOf_append, blocksOf_append, blocksFrom_eq policy hat, isReached_modifyAt]
    split <;> rfl

theorem at?_assign (part : Attribute) (value : Json) :
    (tree.assign position part value).at? position = some (node.withDeclaration (·.assign part value)) := by
  rw [Node.assign, at?_modifyAt, h, Option.map_some]

/-- Unless its kind changes, a node is written after an assignment if and only if it was before. -/
theorem isSome_blockAt?_assign {part : Attribute} (hpart : part ≠ .kind) (value : Json) :
    ((tree.assign position part value).blockAt? policy position).isSome =
      (tree.blockAt? policy position).isSome := by
  unfold blockAt?
  rw [at?_assign h, isReached_assign, h]
  split
  · have hkind : (node.withDeclaration (·.assign part value)).declaration.kind? = node.declaration.kind? :=
      Declaration.kind?_assign hpart node.declaration value
    simp [isSome_blockUnder?, hkind]
  · rfl

/-- Unless its kind changes, what is written below a node stays. -/
theorem blocksFrom_assign {part : Attribute} (hpart : part ≠ .kind) (value : Json) :
    (tree.assign position part value).blocksFrom policy position =
      ((tree.assign position part value).blockAt? policy position).toList ++
        (if tree.isReached position then blocksOf policy node.walkedBelow else []) := by
  rw [blocksFrom_eq_append policy (at?_assign h part value), isReached_assign, walkedBelow_assign hpart]

end Changed

end Node

namespace Document

open Node

/-- **An assignment to a node is local.** If any attribute but the kind of a node is assigned, the blocks
before and after it are the same, and its own block is the only one that may change; a node that is not
written has none, and all blocks stay. If the kind is assigned, the blocks that change are those of the
node and its descendants, and they stand together. -/
theorem assignment_is_local (policy : NullPolicy) (settings settings' : Settings) {tree node : Node}
    {position : Position} (h : tree.at? position = some node) (value : Json) :
    (∀ part : Attribute, part ≠ .kind →
      (ofTree policy settings' (tree.assign position part value)).blocks.length =
        (ofTree policy settings tree).blocks.length ∧
      ∃ pre post : List Text,
        (ofTree policy settings tree).blocks = pre ++ (tree.blockAt? policy position).toList ++ post ∧
        (ofTree policy settings' (tree.assign position part value)).blocks =
          pre ++ ((tree.assign position part value).blockAt? policy position).toList ++ post ∧
        ((tree.assign position part value).blockAt? policy position).isSome =
          (tree.blockAt? policy position).isSome) ∧
    ∃ (changed : Node) (pre post : List Text),
      (tree.assign position .kind value).at? position = some changed ∧
      (ofTree policy settings tree).blocks = pre ++ tree.blocksFrom policy position ++ post ∧
      (ofTree policy settings' (tree.assign position .kind value)).blocks =
        pre ++ (tree.assign position .kind value).blocksFrom policy position ++ post ∧
      (∀ block ∈ tree.blocksFrom policy position, ∃ below : Node,
        below.Within node ∧ below.declaration.block policy = some block) ∧
      ∀ block ∈ (tree.assign position .kind value).blocksFrom policy position, ∃ below : Node,
        below.Within changed ∧ below.declaration.block policy = some block := by
  obtain ⟨pre, post, hbefore, hafter⟩ := blocks_modifyAt policy h
  have hold : (ofTree policy settings tree).blocks = pre ++ tree.blocksFrom policy position ++ post := hbefore
  have hnew (part : Attribute) : (ofTree policy settings' (tree.assign position part value)).blocks =
      pre ++ (tree.assign position part value).blocksFrom policy position ++ post := hafter _
  constructor
  · intro part hpart
    have hsome := isSome_blockAt?_assign policy h hpart value
    rw [hold, hnew, blocksFrom_assign policy h hpart, blocksFrom_eq_append policy h]
    generalize (if tree.isReached position then blocksOf policy node.walkedBelow else []) = below
    refine ⟨?_, pre, below ++ post, ?_, ?_, hsome⟩
    · simp only [List.length_append, Option.length_toList, hsome]
    · simp only [List.append_assoc]
    · simp only [List.append_assoc]
  · have hat := at?_assign h .kind value
    exact ⟨_, pre, post, hat, hold, hnew .kind, fun _ => within_of_mem_blocksFrom policy h,
      fun _ => within_of_mem_blocksFrom policy hat⟩

/-- A class with a method, before a function. -/
def methodSample : Json := .obj
  [("C", .obj [("kind", .str "Class"), ("qualifiedName", .str "C"),
      ("members", .obj [("m", .obj [("kind", .str "Function"), ("qualifiedName", .str "C.m")])])]),
    ("f", .obj [("kind", .str "Function"), ("qualifiedName", .str "f")])]

theorem assignment_is_local_method :
    ∃ tree node, (Node.ingest true methodSample).outcome = .ok tree ∧
      tree.at? [(.children, "C"), (.members, "m")] = some node ∧
      ∀ value, (ofTree .nullable {} (tree.assign [(.children, "C"), (.members, "m")]
        .type value)).blocks.length = 3 := by
  obtain ⟨tree, node, hingest, hat, hblocks⟩ : ∃ tree node,
      (Node.ingest true methodSample).outcome = .ok tree ∧
      tree.at? [(.children, "C"), (.members, "m")] = some node ∧
      (ofTree .nullable {} tree).blocks.length = 3 := ⟨_, _, rfl, rfl, rfl⟩
  refine ⟨tree, node, hingest, hat, fun value => ?_⟩
  obtain ⟨hlength, _⟩ := (assignment_is_local .nullable {} {} hat value).1 .type (by decide)
  exact hlength.trans hblocks

end Document

end Externs
