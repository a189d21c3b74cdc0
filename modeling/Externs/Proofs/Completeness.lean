import Externs.Proofs.Positions
import Externs.Proofs.Reference
import Externs.Proofs.Validation
import Mathlib.Data.Set.Card

/-!
# Completeness

Each position that holds a declaration gives one block, unless the other bucket has a member in its
way.

* `Json.branches`: how a walk goes on from a node, a member being looked up in the long bucket first;
* `Json.stops`: the positions that a walk comes to, in order, each once (`Json.nodup_stops`);
* `Json.emitted`: the positions whose declarations are written, in order;
* `Json.mem_emitted`, `Json.nodup_emitted`: they are those that are not overwritten, each once;
* `Json.blocks_declared`: and there is one block for each of them;
* `Document.length_blocks_add_overwritten`: so a document has a block for every position but these.
-/

namespace Externs

set_option autoImplicit false

/-- A stop on a branch, as seen from the node where the branch starts. -/
def Node.Stop.onto (branch stop : Node.Stop) : Node.Stop := ⟨branch.keys ++ stop.keys, stop.entries⟩

namespace Json

/-! ## Branches -/

/-- The way to a member of a node. A name in both buckets is looked up in the one under the long key. -/
def wayTo (entries : Assoc Json) (name : Text) : List Text :=
  [if name ∈ (longBucket entries).map Prod.fst then membersKey else bucketKey, name]

theorem wayTo_of_mem {entries : Assoc Json} {name : Text} {below : Assoc Json}
    (h : (name, below) ∈ longBucket entries) : wayTo entries name = [membersKey, name] := by
  have hname : name ∈ (longBucket entries).map Prod.fst := List.mem_map.mpr ⟨_, h, rfl⟩
  rw [wayTo, if_pos hname]

theorem wayTo_of_not_mem {entries : Assoc Json} {name : Text}
    (h : name ∉ (longBucket entries).map Prod.fst) : wayTo entries name = [bucketKey, name] := by
  rw [wayTo, if_neg h]

/-- How a walk goes on from a node: to its nested declarations if it is open, and to its members. -/
def branches (entries : Assoc Json) : List Node.Stop :=
  (if isWalkable entries then (nested entries).map fun (key, below) => ⟨[key], below⟩ else []) ++
    (members entries).map fun (name, below) => ⟨wayTo entries name, below⟩

theorem sizeOf_branches {entries : Assoc Json} {branch : Node.Stop} (h : branch ∈ branches entries) :
    sizeOf branch.entries < sizeOf entries := by
  rcases List.mem_append.mp h with hnested | hmember
  · split at hnested
    · obtain ⟨⟨key, below⟩, hmem, rfl⟩ := List.mem_map.mp hnested
      exact sizeOf_nested hmem
    · cases hnested
  · obtain ⟨⟨name, below⟩, hmem, rfl⟩ := List.mem_map.mp hmember
    exact sizeOf_members hmem

/-- A branch leads to a nested declaration, to a member of the long bucket, or to a member of the
short bucket whose name the long one does not have. -/
theorem mem_branches {entries : Assoc Json} (h : Distinct entries) {branch : Node.Stop} :
    branch ∈ branches entries ↔
      (∃ key below, isWalkable entries = true ∧ (key, below) ∈ nested entries ∧ branch = ⟨[key], below⟩) ∨
      (∃ name below, (name, below) ∈ longBucket entries ∧ branch = ⟨[membersKey, name], below⟩) ∨
      (∃ name below, (name, below) ∈ shortBucket entries ∧ name ∉ (longBucket entries).map Prod.fst ∧
        branch = ⟨[bucketKey, name], below⟩) := by
  rw [branches, List.mem_append]
  constructor
  · rintro (hnested | hmember)
    · split at hnested
      · next hwalk =>
        obtain ⟨⟨key, below⟩, hmem, rfl⟩ := List.mem_map.mp hnested
        exact .inl ⟨key, below, hwalk, hmem, rfl⟩
      · cases hnested
    · obtain ⟨⟨name, below⟩, hmem, rfl⟩ := List.mem_map.mp hmember
      rcases Assoc.of_mem_overlay hmem with hlong | ⟨hshort, hnot⟩
      · exact .inr (.inl ⟨name, below, hlong, congrArg (Node.Stop.mk · below) (wayTo_of_mem hlong)⟩)
      · exact .inr (.inr
          ⟨name, below, hshort, hnot, congrArg (Node.Stop.mk · below) (wayTo_of_not_mem hnot)⟩)
  · have hmembers (name : Text) (below : Assoc Json) :
        (name, below) ∈ members entries ↔ (name, below) ∈ longBucket entries ∨
          ((name, below) ∈ shortBucket entries ∧ name ∉ (longBucket entries).map Prod.fst) :=
      Assoc.mem_overlay h.nodup_longBucket
    rintro (⟨key, below, hwalk, hmem, rfl⟩ | ⟨name, below, hlong, rfl⟩ | ⟨name, below, hshort, hnot, rfl⟩)
    · left
      rw [if_pos hwalk]
      exact List.mem_map.mpr ⟨_, hmem, rfl⟩
    · rw [← wayTo_of_mem hlong]
      exact .inr (List.mem_map.mpr ⟨(name, below), (hmembers name below).mpr (.inl hlong), rfl⟩)
    · rw [← wayTo_of_not_mem hnot]
      exact .inr (List.mem_map.mpr ⟨(name, below), (hmembers name below).mpr (.inr ⟨hshort, hnot⟩), rfl⟩)

section Branches

variable {entries : Assoc Json} (h : Distinct entries) {branch : Node.Stop}
  (hbranch : branch ∈ branches entries)
include h hbranch

theorem Distinct.of_branches : Distinct branch.entries := by
  rcases (mem_branches h).mp hbranch with ⟨_, _, _, hmem, rfl⟩ | ⟨_, _, hlong, rfl⟩ |
    ⟨_, _, hshort, _, rfl⟩
  · exact h.of_nested hmem
  · exact h.of_longBucket hlong
  · exact h.of_shortBucket hshort

theorem branch_ne_nil : branch.keys ≠ [] := by
  rcases (mem_branches h).mp hbranch with ⟨_, _, _, _, rfl⟩ | ⟨_, _, _, rfl⟩ | ⟨_, _, _, _, rfl⟩ <;>
    exact List.cons_ne_nil _ _

theorem reached_branch (rest : List Text) (target : Assoc Json) :
    Reached entries (branch.keys ++ rest) target ↔ Reached branch.entries rest target := by
  rcases (mem_branches h).mp hbranch with ⟨_, _, hwalk, hmem, rfl⟩ | ⟨_, _, hlong, rfl⟩ |
    ⟨_, _, hshort, _, rfl⟩
  · exact ⟨reached_below_nested h hmem, reached_nested h hwalk hmem⟩
  · exact ⟨reached_below_long h hlong, reached_long h hlong⟩
  · exact ⟨reached_below_short h hshort, reached_short h hshort⟩

theorem overwritten_branch (rest : List Text) :
    Overwritten entries (branch.keys ++ rest) ↔ Overwritten branch.entries rest := by
  rcases (mem_branches h).mp hbranch with ⟨_, _, hwalk, hmem, rfl⟩ | ⟨_, _, hlong, rfl⟩ |
    ⟨_, _, hshort, hnot, rfl⟩
  · exact overwritten_nested h hwalk hmem rest
  · exact overwritten_long h hlong rest
  · exact (overwritten_short h hshort rest).trans (or_iff_right hnot)

theorem getLastD_branch (rest : List Text) (name : Text) :
    (branch.keys ++ rest).getLastD name = rest.getLastD (branch.keys.getLastD []) := by
  rcases (mem_branches h).mp hbranch with ⟨_, _, _, _, rfl⟩ | ⟨_, _, _, rfl⟩ | ⟨_, _, _, _, rfl⟩ <;>
    simp only [List.cons_append, List.nil_append, List.getLastD_cons, List.getLastD_nil]

/-- Branches lead apart: two that share a position are one. -/
theorem branch_keys_eq {other : Node.Stop} (hother : other ∈ branches entries) {rest rest' : List Text}
    (hkeys : branch.keys ++ rest = other.keys ++ rest') : branch.keys = other.keys := by
  rcases (mem_branches h).mp hbranch with ⟨key, _, _, hmem, rfl⟩ | ⟨name, _, hlong, rfl⟩ |
      ⟨name, _, _, _, rfl⟩ <;>
    rcases (mem_branches h).mp hother with ⟨key', _, _, hmem', rfl⟩ | ⟨name', _, hlong', rfl⟩ |
      ⟨name', _, _, _, rfl⟩ <;>
    simp only [List.cons_append, List.nil_append, List.cons.injEq] at hkeys
  · rw [hkeys.1]
  · rw [hkeys.1] at hmem
    exact (not_mem_longBucket_of_nested h hmem hlong').elim
  · exact absurd hkeys.1 (nested_ne_bucketKey hmem)
  · rw [← hkeys.1] at hmem'
    exact (not_mem_longBucket_of_nested h hmem' hlong).elim
  · rw [hkeys.2.1]
  · exact absurd hkeys.1 membersKey_ne_bucketKey
  · exact absurd hkeys.1.symm (nested_ne_bucketKey hmem')
  · exact absurd hkeys.1.symm membersKey_ne_bucketKey
  · rw [hkeys.2.1]

end Branches

theorem not_overwritten_nil (entries : Assoc Json) : ¬Overwritten entries [] := by
  rintro ⟨above, _, _, _, _, _, _, hkeys⟩
  simp at hkeys

/-- A position below a node that is not overwritten lies on a branch, if its mapping has a kind. -/
theorem exists_branch {entries target : Assoc Json} (h : Distinct entries) {keys : List Text}
    (hreach : Reached entries keys target) (hkind : kindOf target ≠ none)
    (hnot : ¬Overwritten entries keys) :
    (keys = [] ∧ target = entries) ∨
      ∃ branch ∈ branches entries, ∃ rest, keys = branch.keys ++ rest := by
  rcases reached_cases h hreach with hroot | ⟨key, below, rest, hwalk, hmem, rfl, _⟩ |
    ⟨name, below, rest, hshort, rfl, _⟩ | ⟨name, below, rest, hlong, rfl, _⟩ | ⟨_, _, _, hnone⟩
  · exact .inl hroot
  · exact .inr ⟨⟨[key], below⟩, (mem_branches h).mpr (.inl ⟨key, below, hwalk, hmem, rfl⟩), rest, rfl⟩
  · -- Only a name that the long bucket has too would take a member of the short one off the branches.
    have hname : name ∉ (longBucket entries).map Prod.fst := by
      intro hname
      exact hnot ((overwritten_short h hshort rest).mpr (.inl hname))
    exact .inr ⟨⟨[bucketKey, name], below⟩,
      (mem_branches h).mpr (.inr (.inr ⟨name, below, hshort, hname, rfl⟩)), rest, rfl⟩
  · exact .inr ⟨⟨[membersKey, name], below⟩,
      (mem_branches h).mpr (.inr (.inl ⟨name, below, hlong, rfl⟩)), rest, rfl⟩
  · exact absurd (ownsMembers_of_kindless hnone).1 hkind

theorem nodup_branches {entries : Assoc Json} (h : Distinct entries) :
    ((branches entries).map Node.Stop.keys).Nodup := by
  have hmembers : ((members entries).map Prod.fst).Nodup :=
    Assoc.nodup_keys_overlay h.nodup_shortBucket h.nodup_longBucket
  have hway : Function.Injective (wayTo entries) := by
    intro name other heq
    exact (List.cons.inj (List.cons.inj heq).2).1
  rw [branches, List.map_append, List.map_map]
  refine List.Nodup.append ?_ ?_ ?_
  · split
    · have hkeys := h.nodup_nested.map List.singleton_injective
      rw [List.map_map] at hkeys ⊢
      exact hkeys
    · exact List.nodup_nil
  · have hkeys := hmembers.map hway
    rw [List.map_map] at hkeys
    exact hkeys
  · -- A nested declaration is one key away and a member two.
    intro keys hone htwo
    obtain ⟨⟨name, below⟩, _, rfl⟩ := List.mem_map.mp htwo
    split at hone
    · rw [List.map_map] at hone
      obtain ⟨⟨key, _⟩, _, heq⟩ := List.mem_map.mp hone
      cases (List.cons.inj heq).2
    · cases hone

/-! ## Positions that a walk comes to -/

/-- The positions that a walk comes to, at a node and below it, in order. -/
def stops (entries : Assoc Json) : List Node.Stop :=
  ⟨[], entries⟩ ::
    (branches entries).attach.flatMap fun ⟨branch, _⟩ => (stops branch.entries).map (Node.Stop.onto branch)
termination_by sizeOf entries
decreasing_by
  next h => exact sizeOf_branches h

theorem stops_eq (entries : Assoc Json) :
    stops entries = ⟨[], entries⟩ ::
      (branches entries).flatMap fun branch => (stops branch.entries).map (Node.Stop.onto branch) := by
  rw [stops, List.flatMap_subtype (g := fun branch : Node.Stop =>
      (stops branch.entries).map (Node.Stop.onto branch)) (fun _ _ => rfl), List.unattach_attach]

theorem exists_rest_of_onto {branch : Node.Stop} {stops : List Node.Stop} {keys : List Text}
    (h : keys ∈ (stops.map branch.onto).map Node.Stop.keys) : ∃ rest, branch.keys ++ rest = keys := by
  rw [List.map_map] at h
  obtain ⟨stop, _, heq⟩ := List.mem_map.mp h
  exact ⟨stop.keys, heq⟩

/-- **A walk comes to no position twice.** -/
theorem nodup_stops {entries : Assoc Json} (h : Distinct entries) :
    ((stops entries).map Node.Stop.keys).Nodup := by
  rw [stops_eq, List.map_cons, List.map_flatMap, List.nodup_cons]
  constructor
  · -- The node itself is no key away, and what lies on a branch is one at least.
    intro hon
    obtain ⟨branch, hbranch, hkeys⟩ := List.mem_flatMap.mp hon
    obtain ⟨rest, hnil⟩ := exists_rest_of_onto hkeys
    exact branch_ne_nil h hbranch (List.append_eq_nil_iff.mp hnil).1
  · refine List.nodup_flatMap.mpr ⟨?_, ?_⟩
    · intro branch hbranch
      have hinner := (nodup_stops (h.of_branches hbranch)).map (List.append_right_injective branch.keys)
      rw [List.map_map] at hinner ⊢
      exact hinner
    · -- No position lies on two branches.
      refine (List.pairwise_map.mp (nodup_branches h)).imp_of_mem ?_
      intro branch other hbranch hother hne keys hkeys hkeys'
      obtain ⟨rest, rfl⟩ := exists_rest_of_onto hkeys
      obtain ⟨rest', heq⟩ := exists_rest_of_onto hkeys'
      exact hne (branch_keys_eq h hbranch hother heq.symm)
termination_by sizeOf entries
decreasing_by
  exact sizeOf_branches hbranch

/-! ## Positions that are written -/

/-- The positions whose declarations are written, at a node under a name and below it, in order. -/
def emitted (name : Text) (entries : Assoc Json) : List Node.Stop :=
  (if name = [] ∨ kindOf entries = none then [] else [⟨[], entries⟩]) ++
    (branches entries).attach.flatMap fun ⟨branch, _⟩ =>
      (emitted (branch.keys.getLastD []) branch.entries).map (Node.Stop.onto branch)
termination_by sizeOf entries
decreasing_by
  next h => exact sizeOf_branches h

theorem emitted_eq (name : Text) (entries : Assoc Json) :
    emitted name entries =
      (if name = [] ∨ kindOf entries = none then [] else [⟨[], entries⟩]) ++
        (branches entries).flatMap fun branch =>
          (emitted (branch.keys.getLastD []) branch.entries).map (Node.Stop.onto branch) := by
  rw [emitted, List.flatMap_subtype (g := fun branch : Node.Stop =>
      (emitted (branch.keys.getLastD []) branch.entries).map (Node.Stop.onto branch)) (fun _ _ => rfl),
    List.unattach_attach]

/-- **The positions that are written** are those with a declaration that are not overwritten. -/
theorem mem_emitted {name : Text} {entries : Assoc Json} (h : Distinct entries) {stop : Node.Stop} :
    stop ∈ emitted name entries ↔
      Reached entries stop.keys stop.entries ∧ kindOf stop.entries ≠ none ∧
        stop.keys.getLastD name ≠ [] ∧ ¬Overwritten entries stop.keys := by
  -- By recursion on the size of the node: all four conditions at a position on a branch are those at
  -- the rest of the position, seen from the node where the branch ends.
  rw [emitted_eq, List.mem_append, List.mem_flatMap]
  constructor
  · rintro (hown | ⟨branch, hbranch, hon⟩)
    · split at hown
      · cases hown
      · next hnot =>
        obtain rfl := List.mem_singleton.mp hown
        obtain ⟨hname, hkind⟩ := not_or.mp hnot
        exact ⟨.root entries, hkind, hname, not_overwritten_nil entries⟩
    · obtain ⟨inner, hinner, rfl⟩ := List.mem_map.mp hon
      obtain ⟨hreach, hkind, hlast, hnot⟩ := (mem_emitted (h.of_branches hbranch)).mp hinner
      refine ⟨(reached_branch h hbranch _ _).mpr hreach, hkind, ?_,
        mt (overwritten_branch h hbranch _).mp hnot⟩
      rw [Node.Stop.onto, getLastD_branch h hbranch]
      exact hlast
  · rintro ⟨hreach, hkind, hlast, hnot⟩
    obtain ⟨keys, target⟩ := stop
    rcases exists_branch h hreach hkind hnot with ⟨rfl, rfl⟩ | ⟨branch, hbranch, rest, rfl⟩
    · have hown : ¬(name = [] ∨ kindOf target = none) := not_or.mpr ⟨hlast, hkind⟩
      left
      rw [if_neg hown]
      exact List.mem_singleton_self _
    · refine .inr ⟨branch, hbranch, List.mem_map.mpr ⟨⟨rest, target⟩, ?_, rfl⟩⟩
      rw [getLastD_branch h hbranch] at hlast
      exact (mem_emitted (h.of_branches hbranch)).mpr ⟨(reached_branch h hbranch _ _).mp hreach, hkind,
        hlast, mt (overwritten_branch h hbranch _).mpr hnot⟩
termination_by sizeOf entries
decreasing_by
  all_goals exact sizeOf_branches hbranch

/-- Of the positions that a walk comes to, those are written that have a name and a known kind. -/
theorem emitted_eq_filter (name : Text) {entries : Assoc Json} (h : Distinct entries) :
    emitted name entries = (stops entries).filter fun stop =>
      !(stop.keys.getLastD name = [] ∨ kindOf stop.entries = none) := by
  rw [emitted_eq, stops_eq, List.filter_cons, List.filter_flatMap]
  have hbranches : ((branches entries).flatMap fun branch =>
      (emitted (branch.keys.getLastD []) branch.entries).map (Node.Stop.onto branch)) =
      (branches entries).flatMap fun branch => ((stops branch.entries).map branch.onto).filter fun stop =>
        !(stop.keys.getLastD name = [] ∨ kindOf stop.entries = none) := by
    apply List.flatMap_congr
    intro branch hbranch
    rw [emitted_eq_filter _ (h.of_branches hbranch), List.filter_map]
    simp only [Function.comp_def, Node.Stop.onto, getLastD_branch h hbranch]
  rw [hbranches]
  by_cases hown : name = [] ∨ kindOf entries = none
  · simp [hown]
  · simp [hown]
termination_by sizeOf entries
decreasing_by
  exact sizeOf_branches hbranch

/-- **No position is written twice.** -/
theorem nodup_emitted (name : Text) {entries : Assoc Json} (h : Distinct entries) :
    ((emitted name entries).map Node.Stop.keys).Nodup := by
  rw [emitted_eq_filter name h]
  exact (nodup_stops h).sublist (List.filter_sublist.map _)

/-! ## Blocks that are written -/

theorem declared_eq_branches (policy : NullPolicy) (name : Text) (entries : Assoc Json) :
    declared policy name entries =
      met policy name entries ++
        (branches entries).flatMap fun branch =>
          declared policy (branch.keys.getLastD []) branch.entries := by
  rw [declared_eq, branches, List.flatMap_append, List.flatMap_map, ← List.append_assoc]
  split
  · rw [List.flatMap_map]
    rfl
  · rfl

theorem blocks_met (policy : NullPolicy) (name : Text) (entries : Assoc Json) :
    (Visit.blocks (met policy name entries)).map some =
      (if name = [] ∨ kindOf entries = none then [] else [⟨[], entries⟩]).map
        fun stop : Node.Stop => (Declaration.ofEntries stop.entries).block policy := by
  have hkind : (Declaration.ofEntries entries).kind? = kindOf entries := Declaration.kind?_ofEntries entries
  rw [met]
  cases hname : name with
  | nil => rfl
  | cons code rest =>
    cases hk : kindOf entries with
    | none =>
      rw [if_pos (Or.inr rfl)]
      simp only [List.isEmpty_cons, Bool.false_eq_true, if_false]
      split <;> rfl
    | some kind => simp [Visit.blocks, Declaration.block, hkind, hk]

/-- There is one block for each position that is written, and it is the block of what stands there. -/
theorem blocks_declared (policy : NullPolicy) (name : Text) (entries : Assoc Json) :
    (Visit.blocks (declared policy name entries)).map some =
      (emitted name entries).map fun stop => (Declaration.ofEntries stop.entries).block policy := by
  rw [declared_eq_branches, emitted_eq, Visit.blocks, List.filterMap_append, List.filterMap_flatMap,
    List.map_append, List.map_append, List.map_flatMap, List.map_flatMap]
  refine congrArg₂ (· ++ ·) (blocks_met policy name entries) (List.flatMap_congr ?_)
  intro branch hbranch
  rw [List.map_map]
  exact blocks_declared policy (branch.keys.getLastD []) branch.entries
termination_by sizeOf entries
decreasing_by
  exact sizeOf_branches hbranch

/-! ## Counting positions -/

theorem hasKey_of_kindOf {entries : Assoc Json} (h : kindOf entries ≠ none) :
    Assoc.hasKey kindKey entries = true := by
  by_contra hnone
  exact h (ownsMembers_of_kindless (Bool.eq_false_iff.mpr hnone)).1

/-- A position with a tag is a stop of the pass over the mapping. -/
theorem mem_visited_of_reached {entries target : Assoc Json} (h : Distinct entries) {keys : List Text}
    (hreach : Reached entries keys target) (htag : Assoc.hasKey kindKey target = true) (above : List Text) :
    ⟨above ++ keys, target⟩ ∈ Node.visited above entries := by
  rw [Node.visited_eq]
  rcases reached_cases h hreach with ⟨rfl, rfl⟩ | ⟨key, below, rest, _, hmem, rfl, hrest⟩ |
    ⟨name, below, rest, hshort, rfl, hrest⟩ | ⟨name, below, rest, hlong, rfl, hrest⟩ | ⟨_, _, _, hnone⟩
  · rw [List.append_nil]
    exact List.mem_cons_self
  · have hin := mem_visited_of_reached (h.of_nested hmem) hrest htag (above ++ [key])
    rw [List.append_assoc] at hin
    refine List.mem_cons_of_mem _ (List.mem_append_left _ (List.mem_append_left _ ?_))
    exact List.mem_flatMap.mpr ⟨_, hmem, hin⟩
  · have hin := mem_visited_of_reached (h.of_shortBucket hshort) hrest htag (above ++ [bucketKey] ++ [name])
    rw [List.append_cons above bucketKey (name :: rest), List.append_cons (above ++ [bucketKey]) name rest]
    refine List.mem_cons_of_mem _ (List.mem_append_left _ (List.mem_append_right _ ?_))
    exact List.mem_flatMap.mpr ⟨_, hshort, hin⟩
  · have hin := mem_visited_of_reached (h.of_longBucket hlong) hrest htag (above ++ [membersKey] ++ [name])
    rw [List.append_cons above membersKey (name :: rest), List.append_cons (above ++ [membersKey]) name rest]
    refine List.mem_cons_of_mem _ (List.mem_append_right _ ?_)
    exact List.mem_flatMap.mpr ⟨_, hlong, hin⟩
  · rw [hnone] at htag
    cases htag
termination_by sizeOf entries
decreasing_by
  · exact sizeOf_nested hmem
  · exact sizeOf_shortBucket hshort
  · exact sizeOf_longBucket hlong

theorem finite_positions {root : Assoc Json} (h : Distinct root) : (positions root).Finite := by
  refine (List.finite_toSet ((Node.visited [] root).map Node.Stop.keys)).subset ?_
  rintro keys ⟨entries, hreach, hkind, _⟩
  exact List.mem_map.mpr ⟨_, mem_visited_of_reached h hreach (hasKey_of_kindOf hkind) [], rfl⟩

/-- The positions that are written, as a set. -/
theorem setOf_emitted {root : Assoc Json} (h : Distinct root) :
    { keys | keys ∈ (emitted [] root).map Node.Stop.keys } = positions root \ { keys | Overwritten root keys } := by
  ext keys
  constructor
  · intro hkeys
    obtain ⟨stop, hstop, rfl⟩ := List.mem_map.mp hkeys
    obtain ⟨hreach, hkind, hlast, hnot⟩ := (mem_emitted h).mp hstop
    exact ⟨⟨stop.entries, hreach, hkind, hlast⟩, hnot⟩
  · rintro ⟨⟨entries, hreach, hkind, hlast⟩, hnot⟩
    exact List.mem_map.mpr ⟨⟨keys, entries⟩, (mem_emitted h).mpr ⟨hreach, hkind, hlast, hnot⟩, rfl⟩

theorem length_blocks_declared (policy : NullPolicy) {root : Assoc Json} (h : Distinct root) :
    (Visit.blocks (declared policy [] root)).length =
      (positions root \ { keys | Overwritten root keys }).ncard := by
  have hlength := congrArg List.length (blocks_declared policy [] root)
  rw [List.length_map, List.length_map] at hlength
  rw [hlength, ← setOf_emitted h, ← List.coe_toFinset, Set.ncard_coe_finset,
    List.toFinset_card_of_nodup (nodup_emitted [] h), List.length_map]

end Json

/-! ## Documents -/

namespace Document

/-- **Completeness.** A mapping that is not checked always gives a document. It has one block for each
position that holds a declaration and is not overwritten: there is an order of these positions, with no
position in it twice, in which the blocks are those of what stands there. So the blocks and the
overwritten positions with declarations together are as many as all positions with declarations, and no
block is missing just if none of these positions is overwritten. -/
theorem length_blocks_add_overwritten (policy : NullPolicy) (settings : Settings) (root : Json.Mapping) :
    ∃ (document : Document) (order : List Node.Stop),
      (ofJson policy { settings with validateInput := false } root.value).outcome = .ok document ∧
      document.blocks.map some =
        order.map (fun stop => (Declaration.ofEntries stop.entries).block policy) ∧
      (order.map Node.Stop.keys).Nodup ∧
      (∀ stop, stop ∈ order ↔
        Json.Declares root.entries stop ∧ ¬Json.Overwritten root.entries stop.keys) ∧
      (Json.positions root.entries).Finite ∧
      document.blocks.length +
          (Json.positions root.entries ∩ { keys | Json.Overwritten root.entries keys }).ncard =
        (Json.positions root.entries).ncard ∧
      (document.blocks.length = (Json.positions root.entries).ncard ↔
        ∀ keys ∈ Json.positions root.entries, ¬Json.Overwritten root.entries keys) := by
  have hfinite := Json.finite_positions root.distinct
  have hblocks := Json.blocks_declared policy [] root.entries
  have hlength := Json.length_blocks_declared policy root.distinct
  have hsum := Set.ncard_inter_add_ncard_sdiff_eq_ncard (Json.positions root.entries)
    { keys | Json.Overwritten root.entries keys } hfinite
  have hwalk : (ofTree policy { settings with validateInput := false }
      (Node.ofEntries root.entries)).blocks = Visit.blocks (Json.declared policy [] root.entries) := by
    rw [← Node.walk_ofEntries policy [] root.entries root.distinct]
    rfl
  rw [ofJson_permissive]
  refine ⟨_, Json.emitted [] root.entries, rfl, ?_, Json.nodup_emitted [] root.distinct, ?_, hfinite,
    ?_, ?_⟩
  · rw [hwalk, hblocks]
  · intro stop
    rw [Json.mem_emitted root.distinct, Json.Declares, and_assoc, and_assoc]
  · rw [hwalk, hlength, Nat.add_comm]
    exact hsum
  · rw [hwalk, hlength, ← hsum, right_eq_add, Set.ncard_eq_zero (hfinite.inter_of_left _)]
    constructor
    · intro hempty keys hkeys hover
      exact Set.eq_empty_iff_forall_notMem.mp hempty keys ⟨hkeys, hover⟩
    · intro hnot
      exact Set.eq_empty_iff_forall_notMem.mpr fun keys hkeys => hnot keys hkeys.1 hkeys.2

/-- A class may have a method in its short bucket that a method in its long bucket overwrites. -/
example : ∃ root keys, keys ∈ Json.positions root ∧ Json.Overwritten root keys := by
  let method : Assoc Json := [(Json.kindKey, .str "Method")]
  let bucket : Assoc Json := [("m", .obj method)]
  let owner : Assoc Json :=
    [(Json.kindKey, .str "Class"), (Json.bucketKey, .obj bucket), (Json.membersKey, .obj bucket)]
  let root : Assoc Json := [("C", .obj owner)]
  have howner {keys : List Text} {target : Assoc Json} (h : Json.Reached owner keys target) :
      Json.Reached root ("C" :: keys) target :=
    .child (by decide) (by decide) (by rfl) h
  have hmethod : Json.Reached owner [Json.bucketKey, "m"] method :=
    .short (by decide) (by rfl : Assoc.lookup Json.bucketKey owner = some (.obj bucket)) (by rfl)
      (.root method)
  exact ⟨root, _, ⟨method, howner hmethod, by decide, by decide⟩, ["C"], owner, "m", [],
    howner (.root owner), by decide, by decide, rfl⟩

end Document

end Externs
