import Externs.Proofs.Positions
import Externs.Proofs.Validation

/-!
# Slots

Right below a node the pass looks into slots: the open entries of the node, and the entries of its two
buckets. It goes on where it finds an object, and drops any other value. Slots lead apart, so that a
position belongs to one slot only.

* `Node.Slot`, `Node.slots`: the slots of a node, with the values in them;
* `Node.steps_eq_slots`: the pass comes to a node and then looks into its slots;
* `Node.slot_eq`: no position lies in two slots;
* `Node.nodup_steps`: no position comes up twice in a pass;
* `Node.mem_steps_of_node`, `Node.mem_steps_of_onward`: the steps below a node are those whose keys start
  with its keys;
* `Node.exists_slot`: every step but the first is taken at a slot of a node of the pass.
-/

namespace Externs.Node

set_option autoImplicit false

open Json

/-! ## Slots of a node -/

/-- A place right below a node where the pass looks: the keys that lead to it from the node, whether it is
in a bucket, and the value there. -/
structure Slot where
  way : List Text
  inBucket : Bool
  value : Json

/-- The slots of a node, in the order of the pass. -/
def slots (entries : Assoc Json) : List Slot :=
  (openEntries entries).map (fun (key, value) => ⟨[key], false, value⟩) ++
    (shortEntries entries).map (fun (name, value) => ⟨[bucketKey, name], true, value⟩) ++
    (longEntries entries).map (fun (name, value) => ⟨[membersKey, name], true, value⟩)

/-- The step that drops what is in a slot. -/
def Slot.drop (keys : List Text) (slot : Slot) : String → Step :=
  if slot.inBucket then .member (keys ++ slot.way) else .value (keys ++ slot.way)

/-- The first step at a slot: it comes to the node there, or drops the value. -/
def Slot.head (keys : List Text) (slot : Slot) : Step :=
  match slot.value with
  | .obj below => .node ⟨keys ++ slot.way, below⟩
  | value => slot.drop keys value.typeName

/-- All steps at a slot. -/
def Slot.steps (keys : List Text) (slot : Slot) : List Step :=
  stepsAt (Node.steps (keys ++ slot.way)) (slot.drop keys) slot.value

theorem mem_slots {entries : Assoc Json} {slot : Slot} :
    slot ∈ slots entries ↔
      (∃ key value, (key, value) ∈ openEntries entries ∧ slot = ⟨[key], false, value⟩) ∨
      (∃ name value, (name, value) ∈ shortEntries entries ∧ slot = ⟨[bucketKey, name], true, value⟩) ∨
      (∃ name value, (name, value) ∈ longEntries entries ∧ slot = ⟨[membersKey, name], true, value⟩) := by
  simp only [slots, List.mem_append, List.mem_map, Prod.exists, or_assoc, eq_comm (b := slot)]

section Mem

variable {entries : Assoc Json} {key : Text} {value : Json}

theorem slot_of_open (h : (key, value) ∈ openEntries entries) : ⟨[key], false, value⟩ ∈ slots entries :=
  mem_slots.mpr (.inl ⟨key, value, h, rfl⟩)

theorem slot_of_short (h : (key, value) ∈ shortEntries entries) :
    ⟨[bucketKey, key], true, value⟩ ∈ slots entries :=
  mem_slots.mpr (.inr (.inl ⟨key, value, h, rfl⟩))

theorem slot_of_long (h : (key, value) ∈ longEntries entries) :
    ⟨[membersKey, key], true, value⟩ ∈ slots entries :=
  mem_slots.mpr (.inr (.inr ⟨key, value, h, rfl⟩))

end Mem

/-- Just the open entries are one key away. -/
theorem open_of_way {entries : Assoc Json} {slot : Slot} (hslot : slot ∈ slots entries) {key : Text}
    (hway : slot.way <+: [key]) : ∃ value, (key, value) ∈ openEntries entries := by
  rcases mem_slots.mp hslot with ⟨other, value, hmem, rfl⟩ | ⟨_, _, _, rfl⟩ | ⟨_, _, _, rfl⟩
  · obtain ⟨rfl, _⟩ := List.cons_prefix_cons.mp hway
    exact ⟨value, hmem⟩
  · simpa using hway.length_le
  · simpa using hway.length_le

theorem steps_eq_slots (keys : List Text) (entries : Assoc Json) :
    steps keys entries = .node ⟨keys, entries⟩ :: (slots entries).flatMap (Slot.steps keys) := by
  rw [steps_eq, slots, List.flatMap_append, List.flatMap_append, List.flatMap_map, List.flatMap_map,
    List.flatMap_map]
  simp only [openSteps, bucketSteps, Slot.steps, Slot.drop, List.append_assoc, List.cons_append,
    List.nil_append, Bool.false_eq_true, if_false, if_true]

theorem way_ne_nil {entries : Assoc Json} {slot : Slot} (h : slot ∈ slots entries) : slot.way ≠ [] := by
  rcases mem_slots.mp h with ⟨_, _, _, rfl⟩ | ⟨_, _, _, rfl⟩ | ⟨_, _, _, rfl⟩ <;> exact List.cons_ne_nil _ _

theorem sizeOf_slot {entries below : Assoc Json} {slot : Slot} (h : slot ∈ slots entries)
    (hbelow : slot.value = .obj below) : sizeOf below < sizeOf entries := by
  rcases mem_slots.mp h with ⟨_, _, hmem, rfl⟩ | ⟨_, _, hmem, rfl⟩ | ⟨_, _, hmem, rfl⟩ <;>
    obtain rfl := hbelow
  · exact sizeOf_of_mem (List.mem_of_mem_filter hmem)
  · exact Nat.lt_of_lt_of_le (sizeOf_of_mem hmem) (sizeOf_shortEntries entries)
  · exact Nat.lt_of_lt_of_le (sizeOf_of_mem hmem) (sizeOf_longEntries entries)

theorem distinct_slot {entries below : Assoc Json} (h : Distinct entries) {slot : Slot}
    (hslot : slot ∈ slots entries) (hbelow : slot.value = .obj below) : Distinct below := by
  rcases mem_slots.mp hslot with ⟨_, _, hmem, rfl⟩ | ⟨_, _, hmem, rfl⟩ | ⟨_, _, hmem, rfl⟩ <;>
    obtain rfl := hbelow
  · exact h.of_mem (List.mem_of_mem_filter hmem)
  · exact h.shortEntries.of_mem hmem
  · exact h.longEntries.of_mem hmem

/-! ## Slots lead apart -/

theorem mem_openEntries {entries : Assoc Json} {key : Text} {value : Json} :
    (key, value) ∈ openEntries entries ↔
      (key, value) ∈ entries ∧ isStructural (kindOf entries) key value = false := by
  simp [openEntries, List.mem_filter]

theorem open_not_reserved {entries : Assoc Json} {key : Text} {value : Json}
    (h : (key, value) ∈ openEntries entries) : key ∉ reservedKeys := by
  intro hkey
  have hopen := (mem_openEntries.mp h).2
  simp [isStructural, hkey] at hopen

theorem open_ne_bucketKey {entries : Assoc Json} {key : Text} {value : Json}
    (h : (key, value) ∈ openEntries entries) : key ≠ bucketKey := by
  rintro rfl
  exact open_not_reserved h bucketKey_mem_reservedKeys

/-- What stands in the short bucket of a node stands in an object under the short key. -/
theorem exists_shortBucket {entries : Assoc Json} (h : shortEntries entries ≠ []) :
    ownsMembers entries = true ∧ Assoc.lookup bucketKey entries = some (.obj (shortEntries entries)) := by
  rw [shortEntries] at h ⊢
  split at h
  · next howns =>
    rw [if_pos howns]
    cases hbucket : (field bucketKey entries).entries? with
    | none =>
      rw [hbucket] at h
      exact absurd rfl h
    | some bucket => exact ⟨howns, lookup_of_entries? hbucket⟩
  · exact absurd rfl h

/-- What stands in the long bucket of a node stands in an object without a kind, under the long key. -/
theorem exists_longBucket {entries : Assoc Json} (h : longEntries entries ≠ []) :
    ownsMembers entries = true ∧ Assoc.hasKey kindKey (longEntries entries) = false ∧
      Assoc.lookup membersKey entries = some (.obj (longEntries entries)) := by
  rw [longEntries] at h ⊢
  split at h
  · next howns =>
    rw [if_pos howns]
    cases hbucket : (field membersKey entries).entries? with
    | none =>
      rw [hbucket] at h
      exact absurd rfl h
    | some bucket =>
      rw [hbucket] at howns
      obtain ⟨howns, hkind⟩ : ownsMembers entries = true ∧ Assoc.hasKey kindKey bucket = false := by
        simpa using howns
      exact ⟨howns, hkind, lookup_of_entries? hbucket⟩
  · exact absurd rfl h

section Apart

variable {entries : Assoc Json} (h : Distinct entries)
include h

theorem nodup_openEntries : ((openEntries entries).map Prod.fst).Nodup :=
  h.nodup.sublist (List.filter_sublist.map _)

/-- A bucket under the long key is not open. -/
theorem open_ne_membersKey {key name : Text} {value member : Json}
    (hopen : (key, value) ∈ openEntries entries) (hlong : (name, member) ∈ longEntries entries) : key ≠ membersKey := by
  rintro rfl
  obtain ⟨hin, hstructural⟩ := mem_openEntries.mp hopen
  obtain ⟨howns, hkind, hlook⟩ := exists_longBucket (List.ne_nil_of_mem hlong)
  obtain rfl := Assoc.eq_of_mem h.nodup hin (Assoc.mem_of_lookup hlook)
  rw [isStructural_obj, howns, hkind] at hstructural
  simp at hstructural

/-- **Slots lead apart**: two that share a position are one. -/
theorem slot_eq {slot other : Slot} (hslot : slot ∈ slots entries) (hother : other ∈ slots entries)
    {rest rest' : List Text} (hkeys : slot.way ++ rest = other.way ++ rest') : slot = other := by
  rcases mem_slots.mp hslot with ⟨key, value, hmem, rfl⟩ | ⟨name, value, hmem, rfl⟩ |
      ⟨name, value, hmem, rfl⟩ <;>
    rcases mem_slots.mp hother with ⟨key', value', hmem', rfl⟩ | ⟨name', value', hmem', rfl⟩ |
      ⟨name', value', hmem', rfl⟩ <;>
    simp only [List.cons_append, List.nil_append, List.cons.injEq] at hkeys
  · obtain ⟨rfl, _⟩ := hkeys
    rw [Assoc.eq_of_mem (nodup_openEntries h) hmem hmem']
  · exact absurd hkeys.1 (open_ne_bucketKey hmem)
  · exact absurd hkeys.1 (open_ne_membersKey h hmem hmem')
  · exact absurd hkeys.1.symm (open_ne_bucketKey hmem')
  · obtain ⟨_, rfl, _⟩ := hkeys
    rw [Assoc.eq_of_mem h.shortEntries.nodup hmem hmem']
  · exact absurd hkeys.1.symm membersKey_ne_bucketKey
  · exact absurd hkeys.1.symm (open_ne_membersKey h hmem' hmem)
  · exact absurd hkeys.1 membersKey_ne_bucketKey
  · obtain ⟨_, rfl, _⟩ := hkeys
    rw [Assoc.eq_of_mem h.longEntries.nodup hmem hmem']

theorem nodup_ways : ((slots entries).map Slot.way).Nodup := by
  have hone : Function.Injective fun key : Text => [key] := List.singleton_injective
  have htwo (bucket : Text) : Function.Injective fun name : Text => [bucket, name] := by
    intro name other heq
    exact (List.cons.inj (List.cons.inj heq).2).1
  have hopen := (nodup_openEntries h).map hone
  have hshort := h.shortEntries.nodup.map (htwo bucketKey)
  have hlong := h.longEntries.nodup.map (htwo membersKey)
  rw [List.map_map] at hopen hshort hlong
  rw [slots, List.map_append, List.map_append, List.map_map, List.map_map, List.map_map]
  refine (hopen.append hshort ?_).append hlong ?_
  · intro way hway hway'
    obtain ⟨_, _, rfl⟩ := List.mem_map.mp hway
    obtain ⟨_, _, heq⟩ := List.mem_map.mp hway'
    cases (List.cons.inj heq).2
  · intro way hway hway'
    obtain ⟨⟨name, _⟩, _, rfl⟩ := List.mem_map.mp hway'
    rcases List.mem_append.mp hway with hone | htwo
    · obtain ⟨_, _, heq⟩ := List.mem_map.mp hone
      cases (List.cons.inj heq).2
    · obtain ⟨_, _, heq⟩ := List.mem_map.mp htwo
      exact membersKey_ne_bucketKey (List.cons.inj heq).1.symm

end Apart

/-! ## Positions of steps -/

/-- The keys that lead to what a step is about. -/
def Step.keys : Step → List Text
  | .node stop => stop.keys
  | .value keys _ => keys
  | .member keys _ => keys

theorem Slot.keys_drop (keys : List Text) (slot : Slot) (typeName : String) :
    (slot.drop keys typeName).keys = keys ++ slot.way := by
  rw [Slot.drop]
  split <;> rfl

theorem Slot.keys_head (keys : List Text) (slot : Slot) : (slot.head keys).keys = keys ++ slot.way := by
  rw [Slot.head]
  split
  · rfl
  · exact slot.keys_drop keys _

/-- The steps at a slot: those at the node there, or one that drops the value. -/
theorem Slot.steps_cases (keys : List Text) (slot : Slot) :
    (∃ below, slot.value = .obj below ∧ slot.steps keys = Node.steps (keys ++ slot.way) below) ∨
      ((∀ below, slot.value ≠ .obj below) ∧ slot.steps keys = [slot.head keys]) := by
  rw [Slot.steps, Slot.head]
  cases slot.value with
  | obj below => exact .inl ⟨below, rfl, rfl⟩
  | _ => exact .inr ⟨fun _ => Json.noConfusion, rfl⟩

theorem Slot.value_of_head {keys : List Text} {slot : Slot} {stop : Stop} (h : slot.head keys = .node stop) :
    slot.value = .obj stop.entries := by
  rw [Slot.head] at h
  split at h
  · next below hbelow =>
    obtain rfl := Step.node.inj h
    exact hbelow
  · rw [Slot.drop] at h
    split at h <;> cases h

theorem prefix_of_mem_steps {keys : List Text} {entries : Assoc Json} {step : Step}
    (h : step ∈ steps keys entries) : keys <+: step.keys := by
  rw [steps_eq_slots, List.mem_cons, List.mem_flatMap] at h
  rcases h with rfl | ⟨slot, hslot, hstep⟩
  · exact List.prefix_rfl
  · rcases slot.steps_cases keys with ⟨below, hbelow, hsteps⟩ | ⟨_, hsteps⟩ <;> rw [hsteps] at hstep
    · exact (List.prefix_append _ _).trans (prefix_of_mem_steps hstep)
    · rw [List.mem_singleton.mp hstep, Slot.keys_head]
      exact List.prefix_append _ _
termination_by sizeOf entries
decreasing_by
  exact sizeOf_slot hslot hbelow

theorem prefix_of_mem_slot {keys : List Text} {slot : Slot} {step : Step} (h : step ∈ slot.steps keys) :
    keys ++ slot.way <+: step.keys := by
  rcases slot.steps_cases keys with ⟨below, _, hsteps⟩ | ⟨_, hsteps⟩ <;> rw [hsteps] at h
  · exact prefix_of_mem_steps h
  · have hkeys : step.keys = keys ++ slot.way := by rw [List.mem_singleton.mp h, Slot.keys_head]
    exact hkeys ▸ List.prefix_rfl

/-- Two slots that share a position, as seen from further up, are one. -/
theorem slot_eq_of_onward {entries : Assoc Json} (h : Distinct entries) {slot other : Slot}
    (hslot : slot ∈ slots entries) (hother : other ∈ slots entries) {keys position : List Text}
    (honward : keys ++ slot.way <+: position) (honward' : keys ++ other.way <+: position) :
    slot = other := by
  obtain ⟨rest, rfl⟩ := honward
  obtain ⟨rest', heq⟩ := honward'
  rw [List.append_assoc, List.append_assoc] at heq
  exact slot_eq h hslot hother (List.append_cancel_left heq).symm

theorem not_prefix_of_slot {entries : Assoc Json} {slot : Slot} (hslot : slot ∈ slots entries)
    (keys : List Text) : ¬keys ++ slot.way <+: keys := by
  intro honward
  have hlength := honward.length_le
  have hway := List.length_pos_iff.mpr (way_ne_nil hslot)
  rw [List.length_append] at hlength
  omega

/-- **No position comes up twice in a pass.** -/
theorem nodup_steps (keys : List Text) {entries : Assoc Json} (h : Distinct entries) :
    ((steps keys entries).map Step.keys).Nodup := by
  rw [steps_eq_slots, List.map_cons, List.map_flatMap, List.nodup_cons]
  constructor
  · -- The node itself is no key away, and what is in a slot is one at least.
    intro hmem
    obtain ⟨slot, hslot, hkeys⟩ := List.mem_flatMap.mp hmem
    obtain ⟨step, hstep, heq⟩ := List.mem_map.mp hkeys
    have honward := prefix_of_mem_slot hstep
    rw [heq] at honward
    exact not_prefix_of_slot hslot keys honward
  · refine List.nodup_flatMap.mpr ⟨?_, ?_⟩
    · intro slot hslot
      rcases slot.steps_cases keys with ⟨below, hbelow, hsteps⟩ | ⟨_, hsteps⟩ <;> rw [hsteps]
      · exact nodup_steps _ (distinct_slot h hslot hbelow)
      · exact List.nodup_singleton _
    · refine (List.pairwise_map.mp (nodup_ways h)).imp_of_mem ?_
      intro slot other hslot hother hne position hkeys hkeys'
      obtain ⟨step, hstep, rfl⟩ := List.mem_map.mp hkeys
      obtain ⟨step', hstep', heq⟩ := List.mem_map.mp hkeys'
      have honward' := prefix_of_mem_slot hstep'
      rw [heq] at honward'
      exact hne (congrArg Slot.way (slot_eq_of_onward h hslot hother (prefix_of_mem_slot hstep) honward'))
termination_by sizeOf entries
decreasing_by
  exact sizeOf_slot hslot hbelow

/-! ## The pass below a node -/

theorem mem_steps_of_node {keys : List Text} {entries : Assoc Json} {stop : Stop}
    (hnode : .node stop ∈ steps keys entries) {step : Step} (h : step ∈ steps stop.keys stop.entries) :
    step ∈ steps keys entries := by
  rw [steps_eq_slots, List.mem_cons, List.mem_flatMap] at hnode ⊢
  rcases hnode with hroot | ⟨slot, hslot, hnode⟩
  · obtain rfl := Step.node.inj hroot
    rw [steps_eq_slots, List.mem_cons, List.mem_flatMap] at h
    exact h
  · refine .inr ⟨slot, hslot, ?_⟩
    rcases slot.steps_cases keys with ⟨below, hbelow, hsteps⟩ | ⟨hnone, hsteps⟩ <;> rw [hsteps] at hnode ⊢
    · exact mem_steps_of_node hnode h
    · -- Where a value is dropped there is no node.
      exact absurd (Slot.value_of_head (List.mem_singleton.mp hnode).symm) (hnone stop.entries)
termination_by sizeOf entries
decreasing_by
  exact sizeOf_slot hslot hbelow

/-- The steps whose keys start with those of a node are the steps from this node on. -/
theorem mem_steps_of_onward {keys : List Text} {entries : Assoc Json} (h : Distinct entries) {stop : Stop}
    (hnode : .node stop ∈ steps keys entries) {step : Step} (hstep : step ∈ steps keys entries)
    (honward : stop.keys <+: step.keys) : step ∈ steps stop.keys stop.entries := by
  have hroot := hstep
  rw [steps_eq_slots, List.mem_cons, List.mem_flatMap] at hnode hstep
  rcases hnode with heq | ⟨slot, hslot, hnode⟩
  · obtain rfl := Step.node.inj heq
    exact hroot
  · have hway := (prefix_of_mem_slot hnode).trans honward
    rcases hstep with rfl | ⟨other, hother, hstep⟩
    · exact absurd hway (not_prefix_of_slot hslot keys)
    · obtain rfl := slot_eq_of_onward h hslot hother hway (prefix_of_mem_slot hstep)
      rcases slot.steps_cases keys with ⟨below, hbelow, hsteps⟩ | ⟨_, hsteps⟩ <;> rw [hsteps] at hnode hstep
      · exact mem_steps_of_onward (distinct_slot h hslot hbelow) hnode hstep honward
      · rw [List.mem_singleton.mp hstep, ← List.mem_singleton.mp hnode, steps_eq_slots]
        exact List.mem_cons_self
termination_by sizeOf entries
decreasing_by
  exact sizeOf_slot hslot hbelow

theorem distinct_stop {keys : List Text} {entries : Assoc Json} (h : Distinct entries) {stop : Stop}
    (hnode : .node stop ∈ steps keys entries) : Distinct stop.entries := by
  rw [steps_eq_slots, List.mem_cons, List.mem_flatMap] at hnode
  rcases hnode with heq | ⟨slot, hslot, hnode⟩
  · obtain rfl := Step.node.inj heq
    exact h
  · rcases slot.steps_cases keys with ⟨below, hbelow, hsteps⟩ | ⟨hnone, hsteps⟩ <;> rw [hsteps] at hnode
    · exact distinct_stop (distinct_slot h hslot hbelow) hnode
    · exact absurd (Slot.value_of_head (List.mem_singleton.mp hnode).symm) (hnone stop.entries)
termination_by sizeOf entries
decreasing_by
  exact sizeOf_slot hslot hbelow

theorem head_mem_steps (keys : List Text) {entries : Assoc Json} {slot : Slot} (h : slot ∈ slots entries) :
    slot.head keys ∈ steps keys entries := by
  rw [steps_eq_slots]
  refine List.mem_cons_of_mem _ (List.mem_flatMap.mpr ⟨slot, h, ?_⟩)
  rcases slot.steps_cases keys with ⟨below, hbelow, hsteps⟩ | ⟨_, hsteps⟩ <;> rw [hsteps]
  · rw [steps_eq_slots, Slot.head, hbelow]
    exact List.mem_cons_self
  · exact List.mem_singleton_self _

/-- Every step but the first is the first one at a slot of a node of the pass. -/
theorem exists_slot {keys : List Text} {entries : Assoc Json} {step : Step}
    (h : step ∈ steps keys entries) :
    step = .node ⟨keys, entries⟩ ∨
      ∃ stop slot, .node stop ∈ steps keys entries ∧ slot ∈ slots stop.entries ∧
        step = slot.head stop.keys := by
  rw [steps_eq_slots, List.mem_cons, List.mem_flatMap] at h
  rcases h with hroot | ⟨slot, hslot, hstep⟩
  · exact .inl hroot
  · have hself : .node ⟨keys, entries⟩ ∈ steps keys entries := by
      rw [steps_eq_slots]
      exact List.mem_cons_self
    right
    rcases slot.steps_cases keys with ⟨below, hbelow, hsteps⟩ | ⟨_, hsteps⟩ <;> rw [hsteps] at hstep
    · have hhead : slot.head keys = .node ⟨keys ++ slot.way, below⟩ := by rw [Slot.head, hbelow]
      have hnode := head_mem_steps keys hslot
      rw [hhead] at hnode
      rcases exists_slot hstep with heq | ⟨stop, inner, hstop, hinner, heq⟩
      · exact ⟨⟨keys, entries⟩, slot, hself, hslot, heq.trans hhead.symm⟩
      · exact ⟨stop, inner, mem_steps_of_node hnode hstop, hinner, heq⟩
    · exact ⟨⟨keys, entries⟩, slot, hself, hslot, List.mem_singleton.mp hstep⟩
termination_by sizeOf entries
decreasing_by
  exact sizeOf_slot hslot hbelow

end Externs.Node
