import Externs.Proofs.IngestedTypes
import Externs.Proofs.Soundness

/-!
# The shape of ingested trees

Every node of an ingested tree comes from a mapping in the value that was ingested, and has the shape that
ingestion gives it: what later passes read off the node is what the mapping says.

* `Json.origin?`: the mapping from which the node at a position comes;
* `Node.ShapedBy`: the shape of a node that comes from a mapping;
* `Node.shapedBy_ofEntries`: ingestion gives a node this shape;
* `Node.exists_origin_of_at?`: every node at a position is the tree of its origin;
* `Node.ingested_tree_is_shaped`: so every node of an ingested tree has this shape.
-/

namespace Externs

set_option autoImplicit false

/-! ## Origins -/

namespace Json

/-- The mapping of a member: the one in the bucket under the long key if there is one, and else the one in
the bucket under the short key. -/
def memberOrigin? (name : Text) (entries : Assoc Json) : Option (Assoc Json) :=
  (field name (longEntries entries)).entries?.or (field name (shortEntries entries)).entries?

/-- The mapping from which the node at a position comes. -/
def origin? : Node.Position → Assoc Json → Option (Assoc Json)
  | [], entries => some entries
  | (.children, key) :: rest, entries => (field key entries).entries?.bind (origin? rest)
  | (.members, name) :: rest, entries => (memberOrigin? name entries).bind (origin? rest)

theorem entries?_field_of_mem {entries below : Assoc Json} (h : Distinct entries) {key : Text}
    (hmem : (key, below) ∈ objects entries) : (field key entries).entries? = some below := by
  rw [field, (mem_objects_iff_lookup h).mp hmem]
  rfl

theorem memberOrigin?_of_mem {entries below : Assoc Json} (h : Distinct entries) {name : Text}
    (hmem : (name, below) ∈ members entries) : memberOrigin? name entries = some below := by
  rcases Assoc.of_mem_overlay hmem with hlong | ⟨hshort, hnot⟩
  · rw [memberOrigin?, entries?_field_of_mem h.longEntries hlong, Option.some_or]
  · -- What stands under the name in the other bucket, if anything, is no mapping.
    have hnone : (field name (longEntries entries)).entries? = none := by
      cases hentries : (field name (longEntries entries)).entries? with
      | none => rfl
      | some other =>
        have hother : (name, other) ∈ longBucket entries :=
          (mem_objects_iff_lookup h.longEntries).mpr (lookup_of_entries? hentries)
        exact absurd (List.mem_map_of_mem (f := Prod.fst) hother) hnot
    rw [memberOrigin?, hnone, Option.none_or, entries?_field_of_mem h.shortEntries hshort]

theorem ownsMembers_iff (entries : Assoc Json) :
    ownsMembers entries = true ↔ kindOf entries = some .classKind ∨ kindOf entries = some .interfaceKind := by
  rw [ownsMembers]
  cases kindOf entries with
  | none => simp
  | some kind => cases kind <;> simp [Kind.hasMembers]

end Json

/-! ## Shapes -/

namespace Node

open Json

def keysAlong (node : Node) (branch : Branch) : List Text := (node.along branch).map Prod.fst

/-- The shape of a node that comes from the entries of a mapping. -/
structure ShapedBy (node : Node) (entries : Assoc Json) : Prop where
  /-- A tag is never empty. -/
  tag : node.declaration.kindTag ≠ some []
  /-- The text of the tag names the kind that the tag itself names, whatever value it is. -/
  kind : node.declaration.kind? = Kind.ofJson? (field kindKey entries)
  members : node.members ≠ [] →
    node.declaration.kind? = some .classKind ∨ node.declaration.kind? = some .interfaceKind
  keys : ∀ branch, (node.keysAlong branch).Nodup
  reserved : ∀ key ∈ node.keysAlong .children, key ∉ reservedKeys
  /-- A child has the long key of buckets only if it has a kind of its own or is no bucket anyway. -/
  bucket : membersKey ∈ node.keysAlong .children →
    (∃ below, Assoc.lookup membersKey entries = some (.obj below) ∧ Assoc.hasKey kindKey below = true) ∨
      ¬(node.declaration.kind? = some .classKind ∨ node.declaration.kind? = some .interfaceKind)
  list : ∀ items, Assoc.lookup membersKey entries = some (.arr items) → membersKey ∉ node.keysAlong .children
  extended : node.declaration.extended ≠ some []
  implemented : node.declaration.implemented ≠ some []
  /-- All mappings in the types of the node and of its parameters were ingested. -/
  type : node.declaration.type.IsIngested
  parameters : ∀ p ∈ node.declaration.parameters, p.type.IsIngested

theorem presentText_ne_nil (value : Json) : value.presentText ≠ some [] := by
  rw [presentText]
  split
  · next htrue =>
    intro hnil
    exact wording_ne_nil htrue (Option.some.inj hnil)
  · simp

theorem keys_treesOf (objects : Assoc (Assoc Json)) : (treesOf objects).map Prod.fst = objects.map Prod.fst := by
  rw [treesOf, List.map_map]
  rfl

theorem keysAlong_children (entries : Assoc Json) :
    (ofEntries entries).keysAlong .children = (nested entries).map Prod.fst := by
  rw [keysAlong, ofEntries_eq]
  exact keys_treesOf _

theorem along_members {entries : Assoc Json} (h : Distinct entries) :
    (ofEntries entries).along .members = treesOf (Json.members entries) := by
  rw [ofEntries_eq]
  exact merge_treesOf h

theorem nodup_keysAlong {entries : Assoc Json} (h : Distinct entries) (branch : Branch) :
    ((ofEntries entries).keysAlong branch).Nodup := by
  cases branch with
  | members =>
    rw [keysAlong, along_members h, keys_treesOf]
    exact Assoc.nodup_keys_overlay h.nodup_shortBucket h.nodup_longBucket
  | children =>
    rw [keysAlong_children]
    exact h.nodup_nested

theorem ownsMembers_of_members {entries : Assoc Json} (h : Distinct entries)
    (hmembers : (ofEntries entries).members ≠ []) : ownsMembers entries = true := by
  by_contra hnot
  have hnone : (ofEntries entries).along .members = [] := by
    rw [along_members h, members_of_not_owns (Bool.eq_false_of_not_eq_true hnot)]
    rfl
  exact hmembers hnone

theorem exists_lookup_of_key {entries : Assoc Json} (h : Distinct entries) {key : Text}
    (hkey : key ∈ (ofEntries entries).keysAlong .children) :
    ∃ below, Assoc.lookup key entries = some (.obj below) ∧ key ∉ reservedKeys ∧
      (ownsMembers entries = true → key = membersKey → Assoc.hasKey kindKey below = true) := by
  rw [keysAlong_children] at hkey
  obtain ⟨⟨_, below⟩, hmem, rfl⟩ := List.mem_map.mp hkey
  obtain ⟨hentry, hreserved, hbucket⟩ := mem_nested.mp hmem
  refine ⟨below, Assoc.lookup_of_mem h.nodup hentry, hreserved, fun howns hlong => ?_⟩
  by_contra hnone
  exact hbucket ⟨howns, hlong, Bool.eq_false_of_not_eq_true hnone⟩

theorem isIngested_of_mem_parameters {entries : Assoc Json} {p : Parameter}
    (h : p ∈ (Declaration.ofEntries entries).parameters) : p.type.IsIngested := by
  obtain ⟨item, _, hitem⟩ := List.mem_filterMap.mp h
  cases item with
  | obj below =>
    cases hitem
    exact Descriptor.isIngested_ofJson _
  | _ => cases hitem

/-- **Ingestion gives a node its shape.** -/
theorem shapedBy_ofEntries {entries : Assoc Json} (h : Distinct entries) :
    (ofEntries entries).ShapedBy entries := by
  have hdeclaration : (ofEntries entries).declaration = Declaration.ofEntries entries := by rw [ofEntries_eq]
  have hkind : (ofEntries entries).declaration.kind? = kindOf entries := by
    rw [hdeclaration]
    exact Declaration.kind?_ofEntries entries
  constructor
  case tag | extended | implemented =>
    rw [hdeclaration]
    exact presentText_ne_nil _
  case kind => exact hkind
  case members =>
    intro hmembers
    rw [hkind, ← ownsMembers_iff]
    exact ownsMembers_of_members h hmembers
  case keys => exact nodup_keysAlong h
  case reserved =>
    intro key hkey
    obtain ⟨_, _, hreserved, _⟩ := exists_lookup_of_key h hkey
    exact hreserved
  case bucket =>
    intro hkey
    obtain ⟨below, hlookup, _, hbucket⟩ := exists_lookup_of_key h hkey
    rw [hkind, ← ownsMembers_iff]
    by_cases howns : ownsMembers entries = true
    · exact .inl ⟨below, hlookup, hbucket howns rfl⟩
    · exact .inr howns
  case list =>
    intro items hitems hkey
    obtain ⟨below, hlookup, _⟩ := exists_lookup_of_key h hkey
    rw [hitems] at hlookup
    cases hlookup
  case type =>
    rw [hdeclaration]
    exact Descriptor.isIngested_ofJson _
  case parameters =>
    rw [hdeclaration]
    exact fun p => isIngested_of_mem_parameters

/-! ## Positions -/

/-- One step down a tree is one step into the mapping. -/
theorem exists_origin_of_lookup {entries : Assoc Json} (h : Distinct entries) {branch : Branch} {key : Text}
    {child : Node} (hchild : Assoc.lookup key ((ofEntries entries).along branch) = some child) :
    ∃ below, origin? [(branch, key)] entries = some below ∧ Distinct below ∧ child = ofEntries below := by
  have hlookup {objects : Assoc (Assoc Json)} (hobjects : Assoc.lookup key (treesOf objects) = some child) :
      ∃ below, (key, below) ∈ objects ∧ child = ofEntries below := by
    rw [treesOf, Assoc.lookup_map] at hobjects
    obtain ⟨below, hbelow, rfl⟩ := Option.map_eq_some_iff.mp hobjects
    exact ⟨below, Assoc.mem_of_lookup hbelow, rfl⟩
  cases branch with
  | members =>
    rw [along_members h] at hchild
    obtain ⟨below, hmem, rfl⟩ := hlookup hchild
    refine ⟨below, ?_, h.of_members hmem, rfl⟩
    rw [origin?, memberOrigin?_of_mem h hmem]
    rfl
  | children =>
    rw [ofEntries_eq] at hchild
    obtain ⟨below, hmem, rfl⟩ := hlookup hchild
    refine ⟨below, ?_, h.of_nested hmem, rfl⟩
    rw [origin?, entries?_field_of_mem h (List.mem_of_mem_filter hmem)]
    rfl

theorem origin?_cons (step : Branch × Text) (rest : Position) (entries : Assoc Json) :
    origin? (step :: rest) entries = (origin? [step] entries).bind (origin? rest) := by
  obtain ⟨branch, key⟩ := step
  cases branch with
  | members => cases hbelow : memberOrigin? key entries <;> simp [origin?, hbelow]
  | children => cases hbelow : (field key entries).entries? <;> simp [origin?, hbelow]

/-- **The node at a position** is the tree of the mapping from which it comes. -/
theorem exists_origin_of_at? {position : Position} {entries : Assoc Json} (h : Distinct entries) {node : Node}
    (hnode : (ofEntries entries).at? position = some node) :
    ∃ source, origin? position entries = some source ∧ Distinct source ∧ node = ofEntries source := by
  induction position generalizing entries with
  | nil => exact ⟨entries, rfl, h, (Option.some.inj hnode).symm⟩
  | cons step rest ih =>
    obtain ⟨child, hchild, hrest⟩ := Option.bind_eq_some_iff.mp hnode
    obtain ⟨below, hstep, hdistinct, rfl⟩ := exists_origin_of_lookup h hchild
    obtain ⟨source, hsource, hshaped⟩ := ih hdistinct hrest
    exact ⟨source, by rw [origin?_cons, hstep, Option.bind_some, hsource], hshaped⟩

/-! ## Trees -/

theorem isIngested_of_mem_uses_ofEntries {entries : Assoc Json} {kind : Kind} {use : Descriptor.Use}
    (h : use ∈ (Declaration.ofEntries entries).uses kind) : use.type.IsIngested := by
  have hparameters (hmem : use ∈ (Declaration.ofEntries entries).parameterUses) : use.type.IsIngested := by
    obtain ⟨p, hp, huse⟩ := List.mem_flatMap.mp hmem
    exact Descriptor.isIngested_of_mem_uses
      (Descriptor.isIngested_orWildcard (isIngested_of_mem_parameters hp)) huse
  have hdeclared (hmem : use ∈ (Declaration.ofEntries entries).declaredUses) : use.type.IsIngested := by
    rw [Declaration.declaredUses] at hmem
    split at hmem
    · exact Descriptor.isIngested_of_mem_uses (Descriptor.isIngested_ofJson _) hmem
    · cases hmem
  -- Each kind renders the types of its parameters, its own, both or none.
  cases kind with
  | moduleKind | enumKind => cases h
  | classKind | interfaceKind => exact hparameters h
  | functionKind | methodKind => exact (List.mem_append.mp h).elim hparameters hdeclared
  | propertyKind | variableKind | objectKind => exact hdeclared h

/-- **The shape of ingested trees.** Let a mapping be ingested, with checks or without. Every node of the
tree, at any position, comes from a mapping at the same position of the value: it is what this mapping is
ingested to, and it has the shape that goes with it. And every type that is rendered for a block of the tree
is rendered by its fields, without a look at mappings that were not ingested. -/
theorem ingested_tree_is_shaped (validate : Bool) (root : Json.Mapping) (tree : Node)
    (h : (ingest validate root.value).outcome = .ok tree) :
    (∀ position node, tree.at? position = some node →
      ∃ entries, origin? position root.entries = some entries ∧
        (ingest false (.obj entries)).outcome = .ok node ∧ node.ShapedBy entries) ∧
    ∀ policy, ∀ written ∈ tree.written, ∀ use ∈ written.2.uses written.1,
      use.type.renderByFields? policy use.optional = some (use.type.render policy use.optional) := by
  obtain rfl := eq_ofEntries_of_ingest h
  constructor
  · intro position node hnode
    obtain ⟨entries, horigin, hdistinct, rfl⟩ := exists_origin_of_at? root.distinct hnode
    exact ⟨entries, horigin, by rw [ingest_false_obj], shapedBy_ofEntries hdistinct⟩
  · intro policy written hmem use huse
    obtain ⟨stop, _, hstop⟩ := exists_stop_of_mem_written root.distinct hmem
    rw [hstop] at huse
    exact Descriptor.renderByFields?_of_isIngested policy _ (isIngested_of_mem_uses_ofEntries huse) _

/-- A class in a module, with a list as its tag, and a class with a mapping under the long key of buckets
that has a tag of its own. -/
def bucketSample : Json.Mapping where
  entries := [("kind", .str "Module"),
    ("C", .obj [("kind", .arr [.str "Class"]), ("type", .obj [("a", .str "number")])]),
    ("D", .obj [("kind", .str "class"), ("qualifiedName", .str "D"), ("extends", .str ""),
      ("members", .obj [("kind", .str "Function"), ("qualifiedName", .str "D.members"),
        ("parameters", .arr [.obj [("name", .str "p"), ("type", .obj [("a", .obj [("type", .str "A")])])]])]),
      ("#", .obj [("m", .obj [("kind", .str "method"), ("qualifiedName", .str "D.m")])])])]
  distinct := by decide

theorem bucketSample_is_shaped :
    ∃ tree owner method, (ingest false bucketSample.value).outcome = .ok tree ∧
      tree.at? [(.children, "D")] = some owner ∧
      tree.at? [(.children, "D"), (.members, "m")] = some method ∧
      membersKey ∈ owner.keysAlong .children ∧
      (∃ entries, origin? [(.children, "D")] bucketSample.entries = some entries ∧ owner.ShapedBy entries) ∧
      ∃ entries, origin? [(.children, "D"), (.members, "m")] bucketSample.entries = some entries ∧
        method.ShapedBy entries := by
  obtain ⟨tree, owner, method, hingest, howner, hmethod, hkey⟩ : ∃ tree owner method,
      (ingest false bucketSample.value).outcome = .ok tree ∧
      tree.at? [(.children, "D")] = some owner ∧
      tree.at? [(.children, "D"), (.members, "m")] = some method ∧
      membersKey ∈ owner.keysAlong .children := ⟨_, _, _, rfl, rfl, rfl, by decide⟩
  obtain ⟨hshaped, _⟩ := ingested_tree_is_shaped false bucketSample tree hingest
  refine ⟨tree, owner, method, hingest, howner, hmethod, hkey, ?_, ?_⟩
  · obtain ⟨entries, horigin, _, hshape⟩ := hshaped _ owner howner
    exact ⟨entries, horigin, hshape⟩
  · obtain ⟨entries, horigin, _, hshape⟩ := hshaped _ method hmethod
    exact ⟨entries, horigin, hshape⟩

end Node

end Externs
