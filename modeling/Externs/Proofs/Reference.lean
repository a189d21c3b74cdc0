import Externs.Document
import Externs.Proofs.KindTag
import Externs.Proofs.Mapping
import Externs.Proofs.Overlay
import Externs.Proofs.Pass

/-!
# Blocks straight from a mapping

A document is made in two passes: ingestion builds a tree, and a walk over the tree meets declarations.
One pass over the mapping itself meets the same, and builds no tree.

* `Json.met`: what is met at a node under a name;
* `Json.members`: the members of a node, from both of its buckets;
* `Json.declared`: what is met at a node and below it, in order;
* `Node.walk_ofEntries`: the walk over the tree of a mapping meets just that;
* `Document.blocks_eq_declared`: so a document has the blocks that the mapping declares.
-/

namespace Externs

set_option autoImplicit false

namespace Json

/-! ## One pass over a mapping -/

/-- What is met at a node under a name: a block if the kind is known, and a notice if the tag names no
kind. Nothing is met without a name or without a tag. -/
def met (policy : NullPolicy) (name : Text) (entries : Assoc Json) : List Visit :=
  if name.isEmpty then []
  else match kindOf entries with
    | some kind => [.block ((Declaration.ofEntries entries).blockOf policy kind)]
    | none =>
      let tag := field kindKey entries
      if tag.truthy then [.skipped tag.wording name] else []

/-- The members of a node: those in the bucket under the short key, then those under the long key. A
name in both keeps its place in the first and is described by the second. -/
def members (entries : Assoc Json) : Assoc (Assoc Json) :=
  Assoc.overlay (shortBucket entries) (longBucket entries)

theorem sizeOf_members {entries : Assoc Json} {name : Text} {below : Assoc Json}
    (h : (name, below) ∈ members entries) : sizeOf below < sizeOf entries := by
  rcases Assoc.of_mem_overlay h with hlong | ⟨hshort, _⟩
  · exact sizeOf_longBucket hlong
  · exact sizeOf_shortBucket hshort

/-- What is met at a node under a name and below it: the node itself, its nested declarations if it is
open to a walk, and its members. -/
def declared (policy : NullPolicy) (name : Text) (entries : Assoc Json) : List Visit :=
  met policy name entries ++
    (if isWalkable entries then
      (nested entries).attach.flatMap fun ⟨(key, below), _⟩ => declared policy key below
    else []) ++
    (members entries).attach.flatMap fun ⟨(key, below), _⟩ => declared policy key below
termination_by sizeOf entries
decreasing_by
  · next h => exact sizeOf_nested h
  · next h => exact sizeOf_members h

theorem declared_eq (policy : NullPolicy) (name : Text) (entries : Assoc Json) :
    declared policy name entries =
      met policy name entries ++
        (if isWalkable entries then
          (nested entries).flatMap fun (key, below) => declared policy key below
        else []) ++
        (members entries).flatMap fun (key, below) => declared policy key below := by
  have hattach (objects : Assoc (Assoc Json)) :
      (objects.attach.flatMap fun ⟨(key, below), _⟩ => declared policy key below) =
        objects.flatMap fun (key, below) => declared policy key below := by
    rw [List.flatMap_subtype (g := fun (key, below) => declared policy key below) (fun _ _ => rfl),
      List.unattach_attach]
  rw [declared, hattach, hattach]

end Json

/-! ## The walk over a tree -/

theorem Declaration.visit_ofEntries (policy : NullPolicy) (name : Text) (entries : Assoc Json) :
    (Declaration.ofEntries entries).visit policy name = Json.met policy name entries := by
  have hkind : (Declaration.ofEntries entries).kind? = Json.kindOf entries :=
    Declaration.kind?_ofEntries entries
  cases htag : (Declaration.ofEntries entries).kindTag with
  | none =>
    have hfalse : (Json.field Json.kindKey entries).truthy = false := by
      simpa [Declaration.ofEntries, Json.presentText] using htag
    have hnone : Json.kindOf entries = none := by
      rw [← hkind, Declaration.kind?, htag]
      rfl
    simp [Declaration.visit, htag, Json.met, hnone, hfalse]
  | some tag =>
    obtain ⟨htrue, hword⟩ : (Json.field Json.kindKey entries).truthy = true ∧
        (Json.field Json.kindKey entries).wording = tag := by
      simpa [Declaration.ofEntries, Json.presentText] using htag
    rw [Declaration.visit, htag, Json.met, Declaration.block, hkind]
    cases Json.kindOf entries with
    | none => simp [htrue, hword]
    | some kind => rfl

theorem Declaration.opensChildren_ofEntries (entries : Assoc Json) :
    (Declaration.ofEntries entries).opensChildren = Json.isWalkable entries := by
  rw [Declaration.opensChildren, Declaration.kind?_ofEntries]
  rfl

theorem Declaration.opensMembers_ofEntries (entries : Assoc Json) :
    (Declaration.ofEntries entries).opensMembers = Json.ownsMembers entries := by
  rw [Declaration.opensMembers, Declaration.kind?_ofEntries]
  rfl

namespace Json

theorem members_of_not_owns {entries : Assoc Json} (h : ownsMembers entries = false) :
    members entries = [] := by
  rw [members, shortBucket_of_not_owns h, longBucket_of_not_owns h]
  rfl

/-- The members of the tree of a mapping are the trees of its members. -/
theorem merge_treesOf {entries : Assoc Json} (h : Distinct entries) :
    Assoc.merge (Node.treesOf (shortBucket entries)) (Node.treesOf (longBucket entries)) =
      Node.treesOf (members entries) := by
  have hkeys (objects : Assoc (Assoc Json)) :
      (Node.treesOf objects).map Prod.fst = objects.map Prod.fst := by
    rw [Node.treesOf, List.map_map]
    rfl
  have hshort := h.nodup_shortBucket
  have hlong := h.nodup_longBucket
  rw [← hkeys] at hshort hlong
  rw [Assoc.merge_eq_overlay hshort hlong]
  exact Assoc.overlay_map Node.ofEntries (shortBucket entries) (longBucket entries)

theorem Distinct.of_members {entries : Assoc Json} (h : Distinct entries) {name : Text}
    {below : Assoc Json} (hmem : (name, below) ∈ members entries) : Distinct below := by
  rcases Assoc.of_mem_overlay hmem with hlong | ⟨hshort, _⟩
  · exact h.of_longBucket hlong
  · exact h.of_shortBucket hshort

end Json

namespace Node

/-- If the walk over each of several trees meets what its mapping declares, so does the walk over all
of them. -/
theorem walkAll_treesOf (policy : NullPolicy) (objects : Assoc (Assoc Json))
    (h : ∀ name below, (name, below) ∈ objects →
      (ofEntries below).walk policy name = Json.declared policy name below) :
    walkAll policy (treesOf objects) =
      objects.flatMap fun (name, below) => Json.declared policy name below := by
  induction objects with
  | nil => rfl
  | cons object rest ih =>
    obtain ⟨name, below⟩ := object
    have hhead := h name below List.mem_cons_self
    have htail := ih fun n b hmem => h n b (List.mem_cons_of_mem _ hmem)
    rw [treesOf, List.map_cons, walkAll, hhead, List.flatMap_cons, ← htail]
    rfl

/-- **The walk over the tree of a mapping** meets what the mapping declares. -/
theorem walk_ofEntries (policy : NullPolicy) (name : Text) (entries : Assoc Json)
    (h : Json.Distinct entries) :
    (ofEntries entries).walk policy name = Json.declared policy name entries := by
  have hnested := walkAll_treesOf policy (Json.nested entries)
    fun key below hmem => walk_ofEntries policy key below (h.of_nested hmem)
  have hmembers := walkAll_treesOf policy (Json.members entries)
    fun key below hmem => walk_ofEntries policy key below (h.of_members hmem)
  rw [ofEntries_eq, walk, Json.merge_treesOf h, hnested, hmembers, Declaration.visit_ofEntries,
    Declaration.opensChildren_ofEntries, Declaration.opensMembers_ofEntries, Json.declared_eq]
  -- The walk asks whether the node owns members; the mapping has none in its buckets otherwise.
  cases howns : Json.ownsMembers entries with
  | true => rfl
  | false =>
    rw [Json.members_of_not_owns howns]
    rfl
termination_by sizeOf entries
decreasing_by
  · exact Json.sizeOf_nested hmem
  · exact Json.sizeOf_members hmem

end Node

/-! ## Documents -/

namespace Document

/-- The document of a mapping that is not checked: it is always made, and all that is in it and all
that is reported comes from the steps of the pass and from the visits. -/
theorem ofJson_permissive (policy : NullPolicy) (settings : Settings) (root : Json.Mapping) :
    ofJson policy { settings with validateInput := false } root.value =
      ⟨(Node.ingest false root.value).notices ++ noticesOfTree policy (Node.ofEntries root.entries),
        .ok (ofTree policy { settings with validateInput := false } (Node.ofEntries root.entries))⟩ := by
  rw [Json.Mapping.value, ofJson, Node.ingest_false_obj, Ingestion.bind_of_ok rfl]
  rfl

/-- **Blocks straight from a mapping.** A mapping that is not checked always gives a document. Its
blocks are those that the mapping declares, in that order. In the same order, each node that has a tag
of no kind is reported, after the values that were dropped and before the count of the blocks. -/
theorem blocks_eq_declared (policy : NullPolicy) (settings : Settings) (root : Json.Mapping) :
    ∃ document,
      (ofJson policy { settings with validateInput := false } root.value).outcome = .ok document ∧
      document.blocks = Visit.blocks (Json.declared policy [] root.entries) ∧
      (ofJson policy { settings with validateInput := false } root.value).notices =
        (Node.ingest false root.value).notices ++
          Visit.notices (Json.declared policy [] root.entries) ++
          [.generated (Visit.blocks (Json.declared policy [] root.entries)).length] := by
  have hwalk := Node.walk_ofEntries policy [] root.entries root.distinct
  rw [ofJson_permissive]
  refine ⟨_, rfl, ?_, ?_⟩
  · rw [← hwalk]
    rfl
  · rw [← hwalk, List.append_assoc]
    rfl

end Document

end Externs
