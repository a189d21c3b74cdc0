import Externs.Proofs.Completeness

/-!
# The nodes that a walk comes to

What a walk does at a node depends on the node alone, and where it goes on depends on neither blocks nor
notices. So the walk can be cut in two: first the nodes that it comes to, then what it meets at each.

* `Node.walked`: the nodes that the walk over a tree comes to, each with its name;
* `Node.walk_eq_flatMap`: the walk meets what there is at each of them, in order;
* `Node.written`, `Node.blocks_visits`: those of them that are written, one block each;
* `Json.walked_ofEntries`: in the tree of a mapping these are the stops of the mapping.
-/

namespace Externs

set_option autoImplicit false

namespace Node

/-! ## Trees -/

mutual

/-- The nodes that the walk comes to from a node on, in order, each with its name. -/
def walked (name : Text) : Node → List (Text × Declaration)
  | ⟨declaration, members, children⟩ =>
    (name, declaration) ::
      ((if declaration.opensChildren then walkedAll children else []) ++
        (if declaration.opensMembers then walkedAll members else []))

/-- The nodes that the walk comes to from several nodes on. -/
def walkedAll : List (Text × Node) → List (Text × Declaration)
  | [] => []
  | (name, node) :: rest => walked name node ++ walkedAll rest

end

mutual

theorem walk_eq_flatMap (policy : NullPolicy) (name : Text) :
    (node : Node) → node.walk policy name =
      (node.walked name).flatMap fun (name, declaration) => declaration.visit policy name
  | ⟨declaration, members, children⟩ => by
    have hchildren := walkAll_eq_flatMap policy children
    have hmembers := walkAll_eq_flatMap policy members
    rw [walk, walked, List.flatMap_cons, List.flatMap_append, List.append_assoc]
    refine congrArg (declaration.visit policy name ++ ·) (congrArg₂ (· ++ ·) ?_ ?_)
    · split
      · exact hchildren
      · rfl
    · split
      · exact hmembers
      · rfl

theorem walkAll_eq_flatMap (policy : NullPolicy) :
    (nodes : List (Text × Node)) → walkAll policy nodes =
      (walkedAll nodes).flatMap fun (name, declaration) => declaration.visit policy name
  | [] => rfl
  | (name, node) :: rest => by
    rw [walkAll, walkedAll, List.flatMap_append, walk_eq_flatMap policy name node,
      walkAll_eq_flatMap policy rest]

end

/-- What is written at a node: its declaration, if it has a name and a known kind. -/
def writtenAt? (name : Text) (declaration : Declaration) : Option (Kind × Declaration) :=
  if name.isEmpty then none else declaration.kind?.map (·, declaration)

/-- The declarations of a tree that are written, in order, each with its kind. -/
def written (tree : Node) : List (Kind × Declaration) :=
  (tree.walked []).filterMap fun (name, declaration) => writtenAt? name declaration

theorem blocks_visit (policy : NullPolicy) (name : Text) (declaration : Declaration) :
    Visit.blocks (declaration.visit policy name) =
      ((writtenAt? name declaration).map fun (kind, d) => d.blockOf policy kind).toList := by
  rw [Declaration.visit, writtenAt?]
  cases htag : declaration.kindTag with
  | none =>
    have hkind : declaration.kind? = none := by rw [Declaration.kind?, htag, Option.bind_none]
    rw [hkind]
    cases name.isEmpty <;> rfl
  | some tag =>
    cases name.isEmpty with
    | true => rfl
    | false =>
      rw [Declaration.block]
      cases declaration.kind? <;> rfl

/-- A tree has one block for each declaration that is written. -/
theorem blocks_visits (policy : NullPolicy) (tree : Node) :
    Visit.blocks (tree.visits policy) = tree.written.map fun (kind, d) => d.blockOf policy kind := by
  rw [visits, walk_eq_flatMap, written]
  induction tree.walked [] with
  | nil => rfl
  | cons node rest ih =>
    obtain ⟨name, declaration⟩ := node
    have hnode := blocks_visit policy name declaration
    rw [Visit.blocks] at hnode ih
    rw [List.flatMap_cons, Visit.blocks, List.filterMap_append, ih, hnode]
    cases hwritten : writtenAt? name declaration with
    | none => simp [hwritten]
    | some pair => simp [hwritten]

end Node

/-! ## Mappings -/

namespace Json

open Node (ofEntries treesOf walkedAll)

theorem walkedAll_treesOf (objects : Assoc (Assoc Json)) :
    walkedAll (treesOf objects) = objects.flatMap fun (name, below) => (ofEntries below).walked name := by
  induction objects with
  | nil => rfl
  | cons object rest ih =>
    rw [List.flatMap_cons, ← ih]
    rfl

/-- The walk comes to a node and then goes along its branches. -/
theorem walked_ofEntries_branches (name : Text) {entries : Assoc Json} (h : Distinct entries) :
    (ofEntries entries).walked name = (name, Declaration.ofEntries entries) ::
      (branches entries).flatMap fun branch =>
        (ofEntries branch.entries).walked (branch.keys.getLastD []) := by
  have hmembers : (if ownsMembers entries then walkedAll (treesOf (members entries)) else []) =
      walkedAll (treesOf (members entries)) := by
    cases howns : ownsMembers entries with
    | true => rfl
    | false =>
      rw [members_of_not_owns howns]
      rfl
  rw [Node.ofEntries_eq, Node.walked, merge_treesOf h, Declaration.opensChildren_ofEntries,
    Declaration.opensMembers_ofEntries, hmembers, walkedAll_treesOf, walkedAll_treesOf, branches,
    List.flatMap_append, List.flatMap_map]
  split
  · rw [List.flatMap_map]
    rfl
  · rfl

/-- **The nodes that the walk over the tree of a mapping comes to** are the stops of the mapping, each
under the last key that leads to it. -/
theorem walked_ofEntries (name : Text) {entries : Assoc Json} (h : Distinct entries) :
    (ofEntries entries).walked name = (stops entries).map fun stop =>
      (stop.keys.getLastD name, Declaration.ofEntries stop.entries) := by
  rw [walked_ofEntries_branches name h, stops_eq, List.map_cons, List.map_flatMap]
  refine congrArg (List.cons (name, Declaration.ofEntries entries)) (List.flatMap_congr ?_)
  intro branch hbranch
  rw [walked_ofEntries _ (h.of_branches hbranch), List.map_map]
  simp only [Function.comp_def, Node.Stop.onto, getLastD_branch h hbranch]
termination_by sizeOf entries
decreasing_by
  exact sizeOf_branches hbranch

/-- The keys of a stop lead to it. -/
theorem reached_of_mem_stops {entries : Assoc Json} (h : Distinct entries) {stop : Node.Stop}
    (hstop : stop ∈ stops entries) : Reached entries stop.keys stop.entries := by
  rw [stops_eq, List.mem_cons, List.mem_flatMap] at hstop
  rcases hstop with rfl | ⟨branch, hbranch, hon⟩
  · exact .root entries
  · obtain ⟨inner, hinner, rfl⟩ := List.mem_map.mp hon
    exact (reached_branch h hbranch _ _).mpr (reached_of_mem_stops (h.of_branches hbranch) hinner)
termination_by sizeOf entries
decreasing_by
  exact sizeOf_branches hbranch

/-- What is written for the tree of a mapping are declarations of its stops. -/
theorem exists_stop_of_mem_written {entries : Assoc Json} (h : Distinct entries) {kind : Kind}
    {d : Declaration} (hmem : (kind, d) ∈ (ofEntries entries).written) :
    ∃ stop ∈ stops entries, d = Declaration.ofEntries stop.entries := by
  obtain ⟨⟨name, declaration⟩, hwalked, hat⟩ := List.mem_filterMap.mp hmem
  rw [walked_ofEntries [] h] at hwalked
  obtain ⟨stop, hstop, heq⟩ := List.mem_map.mp hwalked
  obtain ⟨rfl, rfl⟩ := Prod.mk.inj heq
  refine ⟨stop, hstop, ?_⟩
  simp only [Node.writtenAt?] at hat
  split at hat
  · cases hat
  · obtain ⟨_, _, hpair⟩ := Option.map_eq_some_iff.mp hat
    exact (Prod.mk.inj hpair).2.symm

end Json

end Externs
