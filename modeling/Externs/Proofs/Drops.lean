import Externs.Proofs.Reference
import Externs.Proofs.Slots

/-!
# What is dropped

The pass drops the values in slots that are no objects, and reports each of them once. With this, every
entry of a node has one fate.

* `Node.Drop`, `Node.drops`: the values that are dropped, in the order of the pass;
* `Node.ingest_false_eq`: without checks, the notices of the pass are those of the drops;
* `Node.recordsAt`: the drops at a position;
* `Node.Fate`, `Node.HasFate`: what becomes of an entry of a node;
* `Node.existsUnique_fate`: every entry of a node has exactly one fate;
* `Node.isMember_iff`: an entry of a bucket is a member or else dropped;
* `Node.Drop.Stands`, `Node.stands_of_mem_drops`: nothing else is dropped.
-/

namespace Externs.Node

set_option autoImplicit false

open Json

/-! ## Drops -/

/-- A value that is dropped: the keys that lead to it from the root, whether it is in a bucket, and the
name of its type. -/
structure Drop where
  keys : List Text
  inBucket : Bool
  typeName : String

/-- The notice of a drop: its path is the keys with dots between them, less the empty ones in front. -/
def Drop.notice (drop : Drop) : Notice :=
  let path := Text.joinWith "." (drop.keys.dropWhile List.isEmpty)
  if drop.inBucket then .droppedMember path drop.typeName else .droppedValue path drop.typeName

/-- What is dropped from a node on, depth first: the pass goes on in each slot that holds an object
before it comes to the next slot. -/
def drops (keys : List Text) (entries : Assoc Json) : List Drop :=
  (slots entries).attach.flatMap fun ⟨slot, _⟩ => match _hvalue : slot.value with
    | .obj below => drops (keys ++ slot.way) below
    | value => [⟨keys ++ slot.way, slot.inBucket, value.typeName⟩]
termination_by sizeOf entries
decreasing_by
  next hslot => exact sizeOf_slot hslot _hvalue

/-- What is dropped at a slot. -/
def Slot.drops (keys : List Text) (slot : Slot) : List Drop :=
  match slot.value with
  | .obj below => Node.drops (keys ++ slot.way) below
  | value => [⟨keys ++ slot.way, slot.inBucket, value.typeName⟩]

theorem drops_eq (keys : List Text) (entries : Assoc Json) :
    drops keys entries = (slots entries).flatMap (Slot.drops keys) := by
  rw [drops, List.flatMap_subtype (g := Slot.drops keys), List.unattach_attach]
  rintro ⟨way, inBucket, value⟩ _
  cases value <;> rfl

/-- The drop that a step is. -/
def Step.drop? : Step → Option Drop
  | .node _ => none
  | .value keys typeName => some ⟨keys, false, typeName⟩
  | .member keys typeName => some ⟨keys, true, typeName⟩

theorem Slot.drop?_drop (keys : List Text) (slot : Slot) (typeName : String) :
    (slot.drop keys typeName).drop? = some ⟨keys ++ slot.way, slot.inBucket, typeName⟩ := by
  rw [Slot.drop]
  cases slot.inBucket <;> rfl

theorem filterMap_drop?_steps (keys : List Text) (entries : Assoc Json) :
    (steps keys entries).filterMap Step.drop? = drops keys entries := by
  have hnode : (Step.node ⟨keys, entries⟩).drop? = none := rfl
  rw [steps_eq_slots, List.filterMap_cons_none hnode, List.filterMap_flatMap, drops_eq]
  refine List.flatMap_congr fun slot hslot => ?_
  rw [Slot.steps, Slot.drops]
  cases hvalue : slot.value with
  | obj below => exact filterMap_drop?_steps (keys ++ slot.way) below
  | _ => exact List.filterMap_cons_some (slot.drop?_drop keys _)
termination_by sizeOf entries
decreasing_by
  exact sizeOf_slot hslot hvalue

theorem mem_drops {keys : List Text} {entries : Assoc Json} {drop : Drop} :
    drop ∈ drops keys entries ↔ ∃ step ∈ steps keys entries, step.drop? = some drop := by
  rw [← filterMap_drop?_steps, List.mem_filterMap]

theorem Step.notice?_eq (step : Step) : step.notice? = step.drop?.map Drop.notice := by
  cases step with
  | node stop => rfl
  | value keys typeName =>
    rw [Step.notice?, pathOf_eq]
    rfl
  | member keys typeName =>
    rw [Step.notice?, pathOf_eq]
    rfl

/-- Without checks the pass reports what it drops, and gives the tree. -/
theorem ingest_false_eq (entries : Assoc Json) :
    ingest false (.obj entries) = ⟨(drops [] entries).map Drop.notice, .ok (ofEntries entries)⟩ := by
  rw [ingest_false_obj, ← filterMap_drop?_steps, List.map_filterMap]
  simp only [Step.notice?_eq]

/-! ## Records -/

/-- The drops at a position. -/
def recordsAt (root : Assoc Json) (position : List Text) : List Drop :=
  (drops [] root).filter fun drop => drop.keys = position

theorem Step.keys_of_drop? {step : Step} {drop : Drop} (h : step.drop? = some drop) :
    drop.keys = step.keys := by
  cases step with
  | node stop => cases h
  | value keys typeName => exact congrArg Drop.keys (Option.some.inj h).symm
  | member keys typeName => exact congrArg Drop.keys (Option.some.inj h).symm

theorem recordsAt_eq (root : Assoc Json) (position : List Text) :
    recordsAt root position =
      ((steps [] root).filter fun step => step.keys = position).filterMap Step.drop? := by
  rw [recordsAt, ← filterMap_drop?_steps, List.filter_filterMap, List.filterMap_filter]
  refine List.filterMap_congr fun step _ => ?_
  cases hdrop : step.drop? with
  | none => simp
  | some drop => simp [Step.keys_of_drop? hdrop, Option.filter]

theorem mem_visited {keys : List Text} {entries : Assoc Json} {stop : Stop} :
    stop ∈ visited keys entries ↔ .node stop ∈ steps keys entries := by
  rw [← filterMap_steps, List.mem_filterMap]
  constructor
  · rintro ⟨step, hstep, hstop⟩
    cases step with
    | node other =>
      obtain rfl := Option.some.inj hstop
      exact hstep
    | _ => cases hstop
  · intro hstep
    exact ⟨.node stop, hstep, rfl⟩

/-- Where no two elements share a key, the key of an element picks this element. -/
theorem filter_key_eq {α β : Type} [DecidableEq β] {key : α → β} {elements : List α}
    (h : (elements.map key).Nodup) {element : α} (hmem : element ∈ elements) :
    elements.filter (fun other => key other = key element) = [element] := by
  induction elements with
  | nil => cases hmem
  | cons first rest ih =>
    rw [List.map_cons, List.nodup_cons] at h
    obtain ⟨hfirst, hrest⟩ := h
    rcases List.mem_cons.mp hmem with rfl | hmem
    · have hnone : rest.filter (fun other => key other = key element) = [] := by
        rw [List.filter_eq_nil_iff]
        intro other hother hkey
        exact hfirst (List.mem_map.mpr ⟨other, hother, of_decide_eq_true hkey⟩)
      rw [List.filter_cons_of_pos (by simp), hnone]
    · have hne : key first ≠ key element := by
        intro hkey
        exact hfirst (List.mem_map.mpr ⟨element, hmem, hkey.symm⟩)
      rw [List.filter_cons_of_neg (by simpa using hne), ih hrest hmem]

/-! ## Steps at a slot -/

section Placed

variable {root : Assoc Json} (h : Distinct root) {stop : Stop} (hstop : stop ∈ visited [] root)
include hstop

theorem head_mem_steps_root {slot : Slot} (hslot : slot ∈ slots stop.entries) :
    slot.head stop.keys ∈ steps [] root :=
  mem_steps_of_node (mem_visited.mp hstop) (head_mem_steps stop.keys hslot)

include h

/-- Just one step of the pass is at a slot. -/
theorem filter_steps_slot {slot : Slot} (hslot : slot ∈ slots stop.entries) :
    ((steps [] root).filter fun step => step.keys = stop.keys ++ slot.way) = [slot.head stop.keys] := by
  have hfilter := filter_key_eq (nodup_steps [] h) (head_mem_steps_root hstop hslot)
  rwa [Slot.keys_head] at hfilter

theorem recordsAt_slot {slot : Slot} (hslot : slot ∈ slots stop.entries) :
    recordsAt root (stop.keys ++ slot.way) = (slot.head stop.keys).drop?.toList := by
  rw [recordsAt_eq, filter_steps_slot h hstop hslot]
  cases hdrop : (slot.head stop.keys).drop? <;> simp [hdrop]

theorem mem_visited_slot {slot : Slot} (hslot : slot ∈ slots stop.entries) {below : Assoc Json} :
    ⟨stop.keys ++ slot.way, below⟩ ∈ visited [] root ↔ slot.value = .obj below := by
  rw [mem_visited]
  constructor
  · intro hnode
    have hmem : .node ⟨stop.keys ++ slot.way, below⟩ ∈
        (steps [] root).filter fun step => step.keys = stop.keys ++ slot.way := by
      simp [hnode, Step.keys]
    rw [filter_steps_slot h hstop hslot] at hmem
    exact Slot.value_of_head (List.mem_singleton.mp hmem).symm
  · intro hvalue
    have hhead := head_mem_steps_root hstop hslot
    rwa [Slot.head, hvalue] at hhead

/-- A step right below a node is at an open entry. -/
theorem open_of_mem_steps {step : Step} (hstep : step ∈ steps [] root) {key : Text}
    (hkeys : step.keys = stop.keys ++ [key]) : ∃ value, (key, value) ∈ openEntries stop.entries := by
  have honward : stop.keys <+: step.keys := ⟨[key], hkeys.symm⟩
  have hlocal := mem_steps_of_onward h (mem_visited.mp hstop) hstep honward
  rw [steps_eq_slots, List.mem_cons, List.mem_flatMap] at hlocal
  rcases hlocal with rfl | ⟨slot, hslot, hlocal⟩
  · simp [Step.keys] at hkeys
  · have hway := prefix_of_mem_slot hlocal
    rw [hkeys, List.prefix_append_right_inj] at hway
    exact open_of_way hslot hway

end Placed

/-! ## Fates -/

/-- What becomes of an entry of a node. -/
inductive Fate where
  | reserved
  | structural
  | child
  | dropped

/-- A value is parsed if it is an object that is visited as a node. -/
def IsParsed (root : Assoc Json) (position : List Text) (value : Json) : Prop :=
  ∃ below, value = .obj below ∧ ⟨position, below⟩ ∈ visited [] root

/-- The fates of an entry of a node of the pass: its key is reserved; it is an array or a bucket under the
long key; it is parsed, and its tree is a child of the tree of the node; there is one record of it. -/
def HasFate (root : Assoc Json) (stop : Stop) (key : Text) (value : Json) : Fate → Prop
  | .reserved => key ∈ reservedKeys
  | .structural => key = membersKey ∧
    ((∃ items, value = .arr items) ∨
      ∃ bucket, value = .obj bucket ∧ ownsMembers stop.entries = true ∧ Assoc.hasKey kindKey bucket = false)
  | .child => IsParsed root (stop.keys ++ [key]) value ∧
    ∃ below, value = .obj below ∧ (key, ofEntries below) ∈ (ofEntries stop.entries).children
  | .dropped => recordsAt root (stop.keys ++ [key]) = [⟨stop.keys ++ [key], false, value.typeName⟩]

theorem isStructural_iff (root : Assoc Json) (stop : Stop) (key : Text) (value : Json) :
    isStructural (kindOf stop.entries) key value = true ↔
      HasFate root stop key value .reserved ∨ HasFate root stop key value .structural := by
  cases value with
  | obj below => simp [isStructural_obj, HasFate, and_comm, and_left_comm]
  | arr items => simp [isStructural, HasFate, items?, isLongBucket]
  | _ => simp [isStructural, HasFate, items?, isLongBucket]

section Placed

variable {root : Assoc Json} (h : Distinct root) {stop : Stop} (hstop : stop ∈ visited [] root)
include h hstop

/-- An entry at which a step is taken is open. -/
theorem not_isStructural_of_step {step : Step} (hstep : step ∈ steps [] root) {key : Text} {value : Json}
    (hkeys : step.keys = stop.keys ++ [key]) (hmem : (key, value) ∈ stop.entries) :
    isStructural (kindOf stop.entries) key value = false := by
  obtain ⟨other, hother⟩ := open_of_mem_steps h hstop hstep hkeys
  obtain ⟨hin, hopen⟩ := mem_openEntries.mp hother
  have hnodup := (distinct_stop h (mem_visited.mp hstop)).nodup
  rwa [Assoc.eq_of_mem hnodup hmem hin]

theorem hasFate_child_iff {key : Text} {value : Json} (hmem : (key, value) ∈ stop.entries) :
    HasFate root stop key value .child ↔
      isStructural (kindOf stop.entries) key value = false ∧ ∃ below, value = .obj below := by
  constructor
  · rintro ⟨⟨below, hbelow, hvisited⟩, _⟩
    exact ⟨not_isStructural_of_step h hstop (mem_visited.mp hvisited) rfl hmem, below, hbelow⟩
  · rintro ⟨hopen, below, rfl⟩
    have hin := mem_openEntries.mpr ⟨hmem, hopen⟩
    have hnested : (key, below) ∈ nested stop.entries := by
      rw [← objects_openEntries]
      exact mem_objects.mpr hin
    refine ⟨⟨below, rfl, (mem_visited_slot h hstop (slot_of_open hin)).mpr rfl⟩, below, rfl, ?_⟩
    rw [ofEntries_eq]
    exact List.mem_map.mpr ⟨(key, below), hnested, rfl⟩

theorem recordsAt_eq_singleton_iff {slot : Slot} (hslot : slot ∈ slots stop.entries) :
    recordsAt root (stop.keys ++ slot.way) =
        [⟨stop.keys ++ slot.way, slot.inBucket, slot.value.typeName⟩] ↔
      ∀ below, slot.value ≠ .obj below := by
  rw [recordsAt_slot h hstop hslot, Slot.head]
  cases slot.value with
  | obj below => simp [Step.drop?]
  | _ => simp [Slot.drop?_drop]

theorem hasFate_dropped_iff {key : Text} {value : Json} (hmem : (key, value) ∈ stop.entries) :
    HasFate root stop key value .dropped ↔
      isStructural (kindOf stop.entries) key value = false ∧ ∀ below, value ≠ .obj below := by
  have hiff (hopen : isStructural (kindOf stop.entries) key value = false) :
      HasFate root stop key value .dropped ↔ ∀ below, value ≠ .obj below :=
    recordsAt_eq_singleton_iff h hstop (slot_of_open (mem_openEntries.mpr ⟨hmem, hopen⟩))
  constructor
  · intro hdropped
    have hrecord : ⟨stop.keys ++ [key], false, value.typeName⟩ ∈ recordsAt root (stop.keys ++ [key]) := by
      rw [show recordsAt root (stop.keys ++ [key]) = _ from hdropped]
      exact List.mem_singleton_self _
    obtain ⟨step, hstep, hdrop⟩ := mem_drops.mp (List.mem_of_mem_filter hrecord)
    have hopen := not_isStructural_of_step h hstop hstep (Step.keys_of_drop? hdrop).symm hmem
    exact ⟨hopen, (hiff hopen).mp hdropped⟩
  · rintro ⟨hopen, hvalue⟩
    exact (hiff hopen).mpr hvalue

/-- **Every entry of a node has exactly one fate.** -/
theorem existsUnique_fate {key : Text} {value : Json} (hmem : (key, value) ∈ stop.entries) :
    ∃! fate, HasFate root stop key value fate := by
  have hstructural := isStructural_iff root stop key value
  have hchild := hasFate_child_iff h hstop hmem
  have hdropped := hasFate_dropped_iff h hstop hmem
  -- The long key is not reserved, so the two ways to be structural exclude each other.
  have hapart : HasFate root stop key value .structural → ¬HasFate root stop key value .reserved := by
    rintro ⟨rfl, _⟩
    exact membersKey_not_mem_reservedKeys
  refine existsUnique_of_exists_of_unique ?_ ?_
  · cases hopen : isStructural (kindOf stop.entries) key value with
    | true => exact (hstructural.mp hopen).elim (fun hfate => ⟨_, hfate⟩) (fun hfate => ⟨_, hfate⟩)
    | false =>
      by_cases hvalue : ∃ below, value = .obj below
      · exact ⟨.child, hchild.mpr ⟨hopen, hvalue⟩⟩
      · exact ⟨.dropped, hdropped.mpr ⟨hopen, not_exists.mp hvalue⟩⟩
  · intro fate other hfate hother
    cases fate <;> cases other <;> grind

end Placed

/-! ## Buckets -/

/-- A bucket of a node: an object under the short key or, if it has no kind of its own, under the long key
of a class or an interface. -/
def Collects (entries : Assoc Json) (key : Text) (bucket : Assoc Json) : Prop :=
  ownsMembers entries = true ∧ Assoc.lookup key entries = some (.obj bucket) ∧
    (key = bucketKey ∨ key = membersKey ∧ Assoc.hasKey kindKey bucket = false)

/-- An entry of a bucket is a member if it is parsed and the tree of the node has a member of its name. -/
def IsMember (root : Assoc Json) (stop : Stop) (key name : Text) (value : Json) : Prop :=
  IsParsed root (stop.keys ++ [key, name]) value ∧
    Assoc.hasKey name (ofEntries stop.entries).members = true

theorem Collects.eq_entries {entries bucket : Assoc Json} {key : Text} (h : Collects entries key bucket) :
    key = bucketKey ∧ shortEntries entries = bucket ∨ key = membersKey ∧ longEntries entries = bucket := by
  obtain ⟨howns, hlook, hkey⟩ := h
  rcases hkey with rfl | ⟨rfl, hkind⟩
  · left
    rw [shortEntries, if_pos howns, entries?_getD_of_lookup hlook]
    exact ⟨rfl, rfl⟩
  · right
    rw [longEntries, entries?_getD_of_lookup hlook]
    simp [howns, hkind]

theorem Collects.mem_slots {entries bucket : Assoc Json} {key : Text} (h : Collects entries key bucket)
    {name : Text} {value : Json} (hmem : (name, value) ∈ bucket) :
    ⟨[key, name], true, value⟩ ∈ slots entries := by
  rcases h.eq_entries with ⟨rfl, rfl⟩ | ⟨rfl, rfl⟩
  · exact slot_of_short hmem
  · exact slot_of_long hmem

theorem Collects.hasKey_members {entries bucket : Assoc Json} (hdistinct : Distinct entries) {key : Text}
    (h : Collects entries key bucket) {name : Text} {below : Assoc Json}
    (hmem : (name, Json.obj below) ∈ bucket) : Assoc.hasKey name (ofEntries entries).members = true := by
  have hname : name ∈ (Json.members entries).map Prod.fst := by
    rw [Json.members, Assoc.mem_keys_overlay]
    rcases h.eq_entries with ⟨_, rfl⟩ | ⟨_, rfl⟩
    · exact .inl (List.mem_map.mpr ⟨(name, below), mem_objects.mpr hmem, rfl⟩)
    · exact .inr (List.mem_map.mpr ⟨(name, below), mem_objects.mpr hmem, rfl⟩)
  rw [Assoc.hasKey_iff, ofEntries_eq, merge_treesOf hdistinct, treesOf, List.map_map]
  exact hname

section Placed

variable {root : Assoc Json} (h : Distinct root) {stop : Stop} (hstop : stop ∈ visited [] root)
include h hstop

/-- **An entry of a bucket is a member or else dropped.** -/
theorem isMember_iff {key name : Text} {bucket : Assoc Json} {value : Json}
    (hcollects : Collects stop.entries key bucket) (hmem : (name, value) ∈ bucket) :
    IsMember root stop key name value ↔
      ¬recordsAt root (stop.keys ++ [key, name]) = [⟨stop.keys ++ [key, name], true, value.typeName⟩] := by
  have hslot := hcollects.mem_slots hmem
  have hrecords := recordsAt_eq_singleton_iff h hstop hslot
  rw [hrecords, not_forall_not]
  constructor
  · rintro ⟨⟨below, hbelow, _⟩, _⟩
    exact ⟨below, hbelow⟩
  · rintro ⟨below, rfl⟩
    refine ⟨⟨below, rfl, (mem_visited_slot h hstop hslot).mpr rfl⟩, ?_⟩
    exact hcollects.hasKey_members (distinct_stop h (mem_visited.mp hstop)) hmem

end Placed

/-! ## Nothing else is dropped -/

/-- Where drops stand: at the entries of nodes of the pass, and at the entries of their buckets. -/
inductive Drop.Stands (root : Assoc Json) : Drop → Prop where
  | value {stop : Stop} {key : Text} {value : Json} (hstop : stop ∈ visited [] root)
      (hmem : (key, value) ∈ stop.entries) : Stands root ⟨stop.keys ++ [key], false, value.typeName⟩
  | member {stop : Stop} {key name : Text} {bucket : Assoc Json} {value : Json}
      (hstop : stop ∈ visited [] root) (hbucket : Collects stop.entries key bucket)
      (hmem : (name, value) ∈ bucket) : Stands root ⟨stop.keys ++ [key, name], true, value.typeName⟩

theorem collects_shortEntries {entries : Assoc Json} (h : shortEntries entries ≠ []) :
    Collects entries bucketKey (shortEntries entries) := by
  obtain ⟨howns, hlook⟩ := exists_shortBucket h
  exact ⟨howns, hlook, .inl rfl⟩

theorem collects_longEntries {entries : Assoc Json} (h : longEntries entries ≠ []) :
    Collects entries membersKey (longEntries entries) := by
  obtain ⟨howns, hkind, hlook⟩ := exists_longBucket h
  exact ⟨howns, hlook, .inr ⟨rfl, hkind⟩⟩

theorem Slot.stands {root : Assoc Json} {stop : Stop} (hstop : stop ∈ visited [] root) {slot : Slot}
    (hslot : slot ∈ slots stop.entries) :
    Drop.Stands root ⟨stop.keys ++ slot.way, slot.inBucket, slot.value.typeName⟩ := by
  rcases mem_slots.mp hslot with ⟨_, _, hmem, rfl⟩ | ⟨_, _, hmem, rfl⟩ | ⟨_, _, hmem, rfl⟩
  · exact .value hstop (mem_openEntries.mp hmem).1
  · exact .member hstop (collects_shortEntries (List.ne_nil_of_mem hmem)) hmem
  · exact .member hstop (collects_longEntries (List.ne_nil_of_mem hmem)) hmem

/-- **Nothing else is dropped.** -/
theorem stands_of_mem_drops {root : Assoc Json} {drop : Drop} (h : drop ∈ drops [] root) :
    drop.Stands root := by
  obtain ⟨step, hstep, hdrop⟩ := mem_drops.mp h
  rcases exists_slot hstep with rfl | ⟨stop, slot, hstop, hslot, rfl⟩
  · cases hdrop
  · have hstands := slot.stands (mem_visited.mpr hstop) hslot
    rw [Slot.head] at hdrop
    split at hdrop
    · cases hdrop
    · rw [Slot.drop?_drop] at hdrop
      rwa [← Option.some.inj hdrop]

theorem recordsAt_of_mem_drops {root : Assoc Json} (h : Distinct root) {drop : Drop}
    (hdrop : drop ∈ drops [] root) : recordsAt root drop.keys = [drop] := by
  obtain ⟨step, hstep, hstepDrop⟩ := mem_drops.mp hdrop
  rw [recordsAt_eq, Step.keys_of_drop? hstepDrop, filter_key_eq (nodup_steps [] h) hstep]
  exact List.filterMap_cons_some hstepDrop

end Externs.Node
