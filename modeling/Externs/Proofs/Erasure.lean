import Externs.Proofs.Drops

/-!
# Erasure

What the pass drops may as well be erased from the mapping before the pass: the tree stays the same, and
nothing is left to report.

* `Json.erase`: a value without the entries at some positions;
* `Node.Picks`: the positions of the drops, as they are seen from a node;
* `Node.openEntries_erase` and the like: the slots that hold objects keep their places, and no others are
  left;
* `Node.ofEntries_erase`, `Node.drops_erase`: the same tree, and no drops;
* `Node.dropped_values_accounted`: what is dropped, what is not, and that it makes no difference.
-/

namespace Externs

set_option autoImplicit false

namespace Json

/-! ## Positions erased from a value -/

mutual

/-- A value without the entries at the positions of which `gone` holds. Arrays are left as they are. -/
def erase (gone : List Text → Bool) : Json → Json
  | .obj entries => .obj (eraseEntries gone entries)
  | value => value

/-- The same for the entries of an object. -/
def eraseEntries (gone : List Text → Bool) : List (Text × Json) → List (Text × Json)
  | [] => []
  | (key, value) :: rest =>
    if gone [key] then eraseEntries gone rest
    else (key, erase (fun keys => gone (key :: keys)) value) :: eraseEntries gone rest

end

theorem eraseEntries_eq (gone : List Text → Bool) (entries : Assoc Json) :
    eraseEntries gone entries = entries.filterMap fun (key, value) =>
      if gone [key] then none else some (key, erase (fun keys => gone (key :: keys)) value) := by
  induction entries with
  | nil => rfl
  | cons entry rest ih =>
    obtain ⟨key, value⟩ := entry
    cases hgone : gone [key] <;> simp [eraseEntries, hgone, ih]

theorem lookup_eraseEntries (gone : List Text → Bool) (key : Text) (entries : Assoc Json) :
    Assoc.lookup key (eraseEntries gone entries) =
      if gone [key] then none else (Assoc.lookup key entries).map (erase fun keys => gone (key :: keys)) := by
  induction entries with
  | nil => simp [eraseEntries, Assoc.lookup]
  | cons entry rest ih =>
    obtain ⟨k, value⟩ := entry
    by_cases hk : k = key
    · subst hk
      cases hgone : gone [k] with
      | true => simpa [eraseEntries, hgone] using ih
      | false => simp [eraseEntries, hgone, Assoc.lookup]
    · cases hgone : gone [k] <;> simp [eraseEntries, hgone, Assoc.lookup, hk, ih]

mutual

/-- Where nothing is gone, nothing changes. -/
theorem erase_of_none {gone : List Text → Bool} (h : ∀ keys, gone keys = false) :
    (value : Json) → erase gone value = value
  | .obj entries => congrArg Json.obj (eraseEntries_of_none h entries)
  | .null | .bool _ | .int _ | .float _ | .str _ | .arr _ => rfl

theorem eraseEntries_of_none {gone : List Text → Bool} (h : ∀ keys, gone keys = false) :
    (entries : List (Text × Json)) → eraseEntries gone entries = entries
  | [] => rfl
  | (key, value) :: rest => by
    have hvalue := erase_of_none (fun keys => h (key :: keys)) value
    rw [eraseEntries, hvalue, eraseEntries_of_none h rest, h, if_neg Bool.false_ne_true]

end

theorem items?_erase (gone : List Text → Bool) (value : Json) : (erase gone value).items? = value.items? := by
  cases value <;> rfl

/-! ## Objects kept, other values erased -/

/-- Objects as the entries that hold them. -/
def ofObjects (below : Assoc (Assoc Json)) : Assoc Json := below.map fun (key, entries) => (key, .obj entries)

/-- The objects among entries, with the positions below them erased. -/
def eraseBelow (gone : List Text → Bool) (entries : Assoc Json) : Assoc (Assoc Json) :=
  (objects entries).map fun (key, below) => (key, eraseEntries (fun keys => gone (key :: keys)) below)

theorem objects_ofObjects (below : Assoc (Assoc Json)) : objects (ofObjects below) = below := by
  rw [objects, ofObjects, List.filterMap_map]
  exact List.filterMap_some

theorem mem_ofObjects_eraseBelow {gone : List Text → Bool} {entries : Assoc Json} {key : Text} {value : Json}
    (h : (key, value) ∈ ofObjects (eraseBelow gone entries)) :
    ∃ below, (key, Json.obj below) ∈ entries ∧
      value = .obj (eraseEntries (fun keys => gone (key :: keys)) below) := by
  rw [ofObjects, eraseBelow, List.map_map] at h
  obtain ⟨⟨k, below⟩, hmem, heq⟩ := List.mem_map.mp h
  obtain ⟨rfl, rfl⟩ := Prod.mk.inj heq
  exact ⟨below, mem_objects.mp hmem, rfl⟩

/-- If just the values that are no objects are gone, the objects are left. -/
theorem eraseEntries_of_objects {gone : List Text → Bool} {entries : Assoc Json}
    (h : ∀ key value, (key, value) ∈ entries → (gone [key] = true ↔ ∀ below, value ≠ .obj below)) :
    eraseEntries gone entries = ofObjects (eraseBelow gone entries) := by
  rw [eraseEntries_eq, ofObjects, eraseBelow, List.map_map, objects, List.map_filterMap]
  apply List.filterMap_congr
  rintro ⟨key, value⟩ hmem
  have hgone := h key value hmem
  cases value with
  | obj below =>
    have hkept : gone [key] = false := by simpa using hgone
    simp [hkept, entries?, erase]
  | _ =>
    have hlost : gone [key] = true := by simpa using hgone
    simp [hlost, entries?]

end Json

namespace Node

open Json

/-! ## Positions of drops -/

/-- `gone` holds of the positions of the drops from a node on, as they are seen from this node. -/
def Picks (gone : List Text → Bool) (keys : List Text) (entries : Assoc Json) : Prop :=
  ∀ rest, gone rest = true ↔ ∃ drop ∈ drops keys entries, drop.keys = keys ++ rest

theorem Slot.prefix_of_mem_drops {keys : List Text} {slot : Slot} {drop : Drop} (h : drop ∈ slot.drops keys) :
    keys ++ slot.way <+: drop.keys := by
  rw [Slot.drops] at h
  split at h
  · obtain ⟨step, hstep, hdrop⟩ := mem_drops.mp h
    rw [Step.keys_of_drop? hdrop]
    exact prefix_of_mem_steps hstep
  · exact List.mem_singleton.mp h ▸ List.prefix_rfl

namespace Picks

variable {gone : List Text → Bool} {keys : List Text} {entries : Assoc Json}

theorem exists_slot (hpicks : Picks gone keys entries) {rest : List Text} (hgone : gone rest = true) :
    ∃ slot ∈ slots entries, slot.way <+: rest := by
  obtain ⟨drop, hdrop, hkeys⟩ := (hpicks rest).mp hgone
  rw [drops_eq] at hdrop
  obtain ⟨slot, hslot, hdrop⟩ := List.mem_flatMap.mp hdrop
  have honward := Slot.prefix_of_mem_drops hdrop
  rw [hkeys, List.prefix_append_right_inj] at honward
  exact ⟨slot, hslot, honward⟩

theorem slot_iff (hpicks : Picks gone keys entries) (h : Distinct entries) {slot : Slot}
    (hslot : slot ∈ slots entries) (rest : List Text) :
    gone (slot.way ++ rest) = true ↔ ∃ drop ∈ slot.drops keys, drop.keys = keys ++ slot.way ++ rest := by
  rw [hpicks, drops_eq, List.append_assoc]
  constructor
  · rintro ⟨drop, hdrop, hkeys⟩
    obtain ⟨other, hother, hdrop⟩ := List.mem_flatMap.mp hdrop
    have honward : keys ++ slot.way <+: drop.keys := by
      rw [hkeys, ← List.append_assoc]
      exact List.prefix_append _ _
    obtain rfl := slot_eq_of_onward h hslot hother honward (Slot.prefix_of_mem_drops hdrop)
    exact ⟨drop, hdrop, hkeys⟩
  · rintro ⟨drop, hdrop, hkeys⟩
    exact ⟨drop, List.mem_flatMap.mpr ⟨slot, hslot, hdrop⟩, hkeys⟩

/-- What is picked at a node is picked at the nodes right below it. -/
theorem below (hpicks : Picks gone keys entries) (h : Distinct entries) {slot : Slot}
    (hslot : slot ∈ slots entries) {target : Assoc Json} (hvalue : slot.value = .obj target) :
    Picks (fun rest => gone (slot.way ++ rest)) (keys ++ slot.way) target := by
  intro rest
  have hiff := hpicks.slot_iff h hslot rest
  rwa [Slot.drops, hvalue] at hiff

theorem way_iff (hpicks : Picks gone keys entries) (h : Distinct entries) {slot : Slot}
    (hslot : slot ∈ slots entries) : gone slot.way = true ↔ ∀ below, slot.value ≠ .obj below := by
  have hiff := hpicks.slot_iff h hslot []
  rw [List.append_nil, List.append_nil] at hiff
  constructor
  · intro hgone target hvalue
    have hbelow := hpicks.below h hslot hvalue
    have hself : gone (slot.way ++ []) = true := by rwa [List.append_nil]
    obtain ⟨inner, hinner, hway⟩ := hbelow.exists_slot hself
    exact way_ne_nil hinner (List.prefix_nil.mp hway)
  · intro hvalue
    refine hiff.mpr ⟨⟨keys ++ slot.way, slot.inBucket, slot.value.typeName⟩, ?_, rfl⟩
    rw [Slot.drops]
    split
    · next below hbelow => exact absurd hbelow (hvalue below)
    · exact List.mem_singleton_self _

theorem exists_open (hpicks : Picks gone keys entries) {key : Text} (hgone : gone [key] = true) :
    ∃ value, (key, value) ∈ openEntries entries := by
  obtain ⟨slot, hslot, hway⟩ := hpicks.exists_slot hgone
  exact open_of_way hslot hway

theorem reserved (hpicks : Picks gone keys entries) {key : Text} (hkey : key ∈ reservedKeys)
    (hne : key ≠ bucketKey) (rest : List Text) : gone (key :: rest) = false := by
  rw [← Bool.not_eq_true]
  intro hgone
  obtain ⟨slot, hslot, hway⟩ := hpicks.exists_slot hgone
  rcases mem_slots.mp hslot with ⟨_, _, hmem, rfl⟩ | ⟨_, _, _, rfl⟩ | ⟨_, _, _, rfl⟩ <;>
    obtain ⟨rfl, _⟩ := List.cons_prefix_cons.mp hway
  · exact open_not_reserved hmem hkey
  · exact hne rfl
  · exact membersKey_not_mem_reservedKeys hkey

theorem bucketKey_kept (hpicks : Picks gone keys entries) : gone [bucketKey] = false := by
  rw [← Bool.not_eq_true]
  intro hgone
  obtain ⟨_, hopen⟩ := hpicks.exists_open hgone
  exact open_ne_bucketKey hopen rfl

end Picks

/-! ## Parts of a node after erasure -/

theorem longEntries_of_obj {entries bucket : Assoc Json}
    (hlook : Assoc.lookup membersKey entries = some (.obj bucket)) :
    longEntries entries = if isStructural (kindOf entries) membersKey (.obj bucket) then bucket else [] := by
  rw [longEntries, entries?_getD_of_lookup hlook, isStructural_obj]
  simp [membersKey_not_mem_reservedKeys]

theorem longEntries_of_not_obj {entries : Assoc Json}
    (hlook : ∀ bucket, Assoc.lookup membersKey entries ≠ some (.obj bucket)) : longEntries entries = [] := by
  by_contra hne
  obtain ⟨_, _, hbucket⟩ := exists_longBucket hne
  exact hlook _ hbucket

section Erased

variable {gone : List Text → Bool} {keys : List Text} {entries : Assoc Json}
  (hpicks : Picks gone keys entries)
include hpicks

theorem lookup_erase_reserved {key : Text} (hkey : key ∈ reservedKeys) (hne : key ≠ bucketKey) :
    Assoc.lookup key (eraseEntries gone entries) = Assoc.lookup key entries := by
  have hnone := hpicks.reserved hkey hne
  rw [lookup_eraseEntries, hnone, if_neg Bool.false_ne_true]
  cases Assoc.lookup key entries with
  | none => rfl
  | some value => exact congrArg some (erase_of_none hnone value)

theorem field_erase_reserved {key : Text} (hkey : key ∈ reservedKeys) (hne : key ≠ bucketKey) :
    field key (eraseEntries gone entries) = field key entries := by
  rw [field, lookup_erase_reserved hpicks hkey hne, field]

theorem hasKey_kindKey_erase :
    Assoc.hasKey kindKey (eraseEntries gone entries) = Assoc.hasKey kindKey entries := by
  rw [Assoc.hasKey, lookup_erase_reserved hpicks (by decide) (by decide), Assoc.hasKey]

theorem kindOf_erase : kindOf (eraseEntries gone entries) = kindOf entries := by
  rw [kindOf, field_erase_reserved hpicks (by decide) (by decide), kindOf]

theorem ownsMembers_erase : ownsMembers (eraseEntries gone entries) = ownsMembers entries := by
  rw [ownsMembers, kindOf_erase hpicks, ownsMembers]

variable (h : Distinct entries)
include h

/-- Only an entry that is open is gone, and no object. -/
theorem gone_iff {key : Text} {value : Json} (hmem : (key, value) ∈ entries) :
    gone [key] = true ↔
      isStructural (kindOf entries) key value = false ∧ ∀ below, value ≠ .obj below := by
  constructor
  · intro hgone
    obtain ⟨other, hother⟩ := hpicks.exists_open hgone
    obtain rfl := Assoc.eq_of_mem h.nodup hmem (mem_openEntries.mp hother).1
    exact ⟨(mem_openEntries.mp hother).2, (hpicks.way_iff h (slot_of_open hother)).mp hgone⟩
  · rintro ⟨hopen, hvalue⟩
    exact (hpicks.way_iff h (slot_of_open (mem_openEntries.mpr ⟨hmem, hopen⟩))).mpr hvalue

/-- Erasure changes nothing about which entries are structural: a kind is never erased. -/
theorem isStructural_erase {key : Text} {value : Json} (hmem : (key, value) ∈ entries) :
    isStructural (kindOf entries) key (erase (fun rest => gone (key :: rest)) value) =
      isStructural (kindOf entries) key value := by
  cases value with
  | obj below =>
    cases hopen : isStructural (kindOf entries) key (.obj below) with
    | false =>
      have hslot := slot_of_open (mem_openEntries.mpr ⟨hmem, hopen⟩)
      have hkind := hasKey_kindKey_erase (hpicks.below h hslot rfl)
      rw [isStructural_obj] at hopen
      rw [erase, isStructural_obj]
      exact hkind ▸ hopen
    | true =>
      have hkind : Assoc.hasKey kindKey below = false →
          Assoc.hasKey kindKey (eraseEntries (fun rest => gone (key :: rest)) below) = false := by
        rw [Assoc.hasKey, Assoc.hasKey, lookup_eraseEntries]
        cases Assoc.lookup kindKey below <;> simp
      rw [isStructural_obj] at hopen
      rw [erase, isStructural_obj]
      simp only [Bool.or_eq_true, Bool.and_eq_true, Bool.not_eq_true'] at hopen ⊢
      exact hopen.imp_right fun hbucket => ⟨hbucket.1, hkind hbucket.2⟩
  | _ => rfl

theorem openEntries_erase :
    openEntries (eraseEntries gone entries) = ofObjects (eraseBelow gone (openEntries entries)) := by
  rw [openEntries, kindOf_erase hpicks, eraseEntries_eq, List.filter_filterMap, ofObjects, eraseBelow,
    List.map_map, objects, List.map_filterMap, openEntries, List.filterMap_filter]
  apply List.filterMap_congr
  rintro ⟨key, value⟩ hmem
  have hgone := gone_iff hpicks h hmem
  have hsame := isStructural_erase hpicks h hmem
  cases hopen : isStructural (kindOf entries) key value with
  | true =>
    have hkept : gone [key] = false := by simpa [hopen] using hgone
    simp [hkept, hopen, hsame]
  | false =>
    cases value with
    | obj below =>
      have hkept : gone [key] = false := by simpa using hgone
      rw [erase, hopen] at hsame
      simp [hkept, hopen, hsame, entries?, erase]
    | _ =>
      have hlost : gone [key] = true := by simpa [hopen] using hgone
      simp [hlost, hopen, entries?]

/-- Of a bucket just the objects are left. -/
theorem eraseEntries_bucket {key : Text} {bucket : Assoc Json} (hbucket : Collects entries key bucket) :
    eraseEntries (fun rest => gone (key :: rest)) bucket =
      ofObjects (eraseBelow (fun rest => gone (key :: rest)) bucket) :=
  eraseEntries_of_objects fun _ _ hmem => hpicks.way_iff h (hbucket.mem_slots hmem)

theorem shortEntries_erase :
    shortEntries (eraseEntries gone entries) =
      ofObjects (eraseBelow (fun rest => gone (bucketKey :: rest)) (shortEntries entries)) := by
  have hkept := hpicks.bucketKey_kept
  rw [shortEntries, shortEntries, ownsMembers_erase hpicks]
  cases howns : ownsMembers entries with
  | false => rfl
  | true =>
    rw [if_pos rfl, if_pos rfl, field, lookup_eraseEntries, hkept, if_neg Bool.false_ne_true, field]
    cases hlook : Assoc.lookup bucketKey entries with
    | none => rfl
    | some value =>
      cases value with
      | obj bucket => exact eraseEntries_bucket hpicks h ⟨howns, hlook, .inl rfl⟩
      | _ => rfl

theorem longEntries_erase :
    longEntries (eraseEntries gone entries) =
      ofObjects (eraseBelow (fun rest => gone (membersKey :: rest)) (longEntries entries)) := by
  by_cases hobj : ∃ bucket, Assoc.lookup membersKey entries = some (.obj bucket)
  · obtain ⟨bucket, hlook⟩ := hobj
    have hmem := Assoc.mem_of_lookup hlook
    have hsame := isStructural_erase hpicks h hmem
    have hkept : gone [membersKey] = false := by simpa using gone_iff hpicks h hmem
    have hlook' : Assoc.lookup membersKey (eraseEntries gone entries) =
        some (.obj (eraseEntries (fun rest => gone (membersKey :: rest)) bucket)) := by
      rw [lookup_eraseEntries, hkept, hlook]
      rfl
    rw [erase] at hsame
    rw [longEntries_of_obj hlook', kindOf_erase hpicks, hsame]
    cases hbucket : isStructural (kindOf entries) membersKey (.obj bucket) with
    | true =>
      have hcollects : Collects entries membersKey bucket := by
        rw [isStructural_obj] at hbucket
        simp only [Bool.or_eq_true, List.contains_iff_mem, membersKey_not_mem_reservedKeys, false_or,
          Bool.and_eq_true, Bool.not_eq_true'] at hbucket
        exact ⟨hbucket.1.1, hlook, .inr ⟨rfl, hbucket.2⟩⟩
      rw [longEntries_of_obj hlook, hbucket]
      exact eraseEntries_bucket hpicks h hcollects
    | false =>
      rw [longEntries_of_obj hlook, hbucket]
      rfl
  · have hnone := longEntries_of_not_obj (not_exists.mp hobj)
    rw [hnone]
    refine longEntries_of_not_obj fun bucket hlook => hobj ?_
    rw [lookup_eraseEntries] at hlook
    split at hlook
    · cases hlook
    · obtain ⟨value, hvalue, herase⟩ := Option.map_eq_some_iff.mp hlook
      cases value with
      | obj below => exact ⟨below, hvalue⟩
      | _ => cases herase

theorem items?_members_erase :
    (field membersKey (eraseEntries gone entries)).items? = (field membersKey entries).items? := by
  rw [field, lookup_eraseEntries, field]
  cases hlook : Assoc.lookup membersKey entries with
  | none => simp
  | some value =>
    have hgone := gone_iff hpicks h (Assoc.mem_of_lookup hlook)
    cases hlost : gone [membersKey] with
    | false => exact items?_erase _ value
    | true =>
      -- An array under the long key is structural, and so is not gone.
      have hopen := (hgone.mp hlost).1
      cases value with
      | arr items => simp [isStructural, items?] at hopen
      | _ => rfl

theorem declaration_erase :
    Declaration.ofEntries (eraseEntries gone entries) = Declaration.ofEntries entries := by
  have hfield (key : Text) (hkey : key ∈ reservedKeys) (hne : key ≠ bucketKey) :=
    field_erase_reserved hpicks hkey hne
  rw [Declaration.ofEntries, Declaration.ofEntries, items?_members_erase hpicks h,
    hfield kindKey (by decide) (by decide), hfield qualifiedNameKey (by decide) (by decide),
    hfield parametersKey (by decide) (by decide), hfield typeKey (by decide) (by decide),
    hfield staticKey (by decide) (by decide), hfield optionalKey (by decide) (by decide),
    hfield spreadKey (by decide) (by decide), hfield extendsKey (by decide) (by decide),
    hfield implementsKey (by decide) (by decide)]

/-- Every slot that is left comes from one that holds an object. -/
theorem exists_origin {slot : Slot} (hslot : slot ∈ slots (eraseEntries gone entries)) :
    ∃ origin ∈ slots entries, ∃ below, origin.value = .obj below ∧
      slot.value = .obj (eraseEntries (fun rest => gone (origin.way ++ rest)) below) := by
  rw [mem_slots, openEntries_erase hpicks h, shortEntries_erase hpicks h, longEntries_erase hpicks h] at hslot
  rcases hslot with ⟨key, value, hmem, rfl⟩ | ⟨name, value, hmem, rfl⟩ | ⟨name, value, hmem, rfl⟩ <;>
    obtain ⟨below, horigin, rfl⟩ := mem_ofObjects_eraseBelow hmem
  · exact ⟨_, slot_of_open horigin, below, rfl, rfl⟩
  · exact ⟨_, slot_of_short horigin, below, rfl, rfl⟩
  · exact ⟨_, slot_of_long horigin, below, rfl, rfl⟩

end Erased

/-! ## The pass after erasure -/

/-- Nothing is left to drop. -/
theorem drops_erase {gone : List Text → Bool} {keys : List Text} {entries : Assoc Json}
    (hpicks : Picks gone keys entries) (h : Distinct entries) (keys' : List Text) :
    drops keys' (eraseEntries gone entries) = [] := by
  rw [drops_eq, List.flatMap_eq_nil_iff]
  intro slot hslot
  obtain ⟨origin, horigin, below, hbelow, hvalue⟩ := exists_origin hpicks h hslot
  rw [Slot.drops, hvalue]
  exact drops_erase (hpicks.below h horigin hbelow) (distinct_slot h horigin hbelow) _
termination_by sizeOf entries
decreasing_by
  exact sizeOf_slot horigin hbelow

theorem treesOf_eraseBelow {gone : List Text → Bool} {entries : Assoc Json}
    (h : ∀ key below, (key, Json.obj below) ∈ entries →
      ofEntries (eraseEntries (fun rest => gone (key :: rest)) below) = ofEntries below) :
    treesOf (eraseBelow gone entries) = treesOf (objects entries) := by
  rw [treesOf, eraseBelow, List.map_map, treesOf]
  apply List.map_congr_left
  rintro ⟨key, below⟩ hmem
  exact congrArg (Prod.mk key) (h key below (mem_objects.mp hmem))

/-- **The tree stays the same.** -/
theorem ofEntries_erase {gone : List Text → Bool} {keys : List Text} {entries : Assoc Json}
    (hpicks : Picks gone keys entries) (h : Distinct entries) :
    ofEntries (eraseEntries gone entries) = ofEntries entries := by
  have hbelow {slot : Slot} (hslot : slot ∈ slots entries) {below : Assoc Json}
      (hvalue : slot.value = .obj below) :
      ofEntries (eraseEntries (fun rest => gone (slot.way ++ rest)) below) = ofEntries below :=
    ofEntries_erase (hpicks.below h hslot hvalue) (distinct_slot h hslot hvalue)
  have hopen : treesOf (eraseBelow gone (openEntries entries)) = treesOf (objects (openEntries entries)) :=
    treesOf_eraseBelow fun _ _ hmem => hbelow (slot_of_open hmem) rfl
  have hshort : treesOf (eraseBelow (fun rest => gone (bucketKey :: rest)) (shortEntries entries)) =
      treesOf (objects (shortEntries entries)) :=
    treesOf_eraseBelow fun _ _ hmem => hbelow (slot_of_short hmem) rfl
  have hlong : treesOf (eraseBelow (fun rest => gone (membersKey :: rest)) (longEntries entries)) =
      treesOf (objects (longEntries entries)) :=
    treesOf_eraseBelow fun _ _ hmem => hbelow (slot_of_long hmem) rfl
  rw [ofEntries_eq, ofEntries_eq, declaration_erase hpicks h, ← objects_openEntries, ← objects_openEntries,
    shortBucket, shortBucket, longBucket, longBucket, openEntries_erase hpicks h,
    shortEntries_erase hpicks h, longEntries_erase hpicks h, objects_ofObjects, objects_ofObjects,
    objects_ofObjects, hopen, hshort, hlong]
termination_by sizeOf entries
decreasing_by
  exact sizeOf_slot hslot hvalue

/-! ## Accounting -/

/-- **What is dropped is accounted for.** The pass over a mapping that is not checked gives the tree and
reports its drops in order. Every entry of a node of the pass has exactly one fate, and every entry of a
bucket is either a member or dropped. There is one record of each drop, and nothing else is dropped. If
just what is dropped is erased from the mapping, the pass gives the same tree and reports nothing. -/
theorem dropped_values_accounted (root : Json.Mapping) :
    ingest false root.value =
        ⟨(drops [] root.entries).map Drop.notice, .ok (ofEntries root.entries)⟩ ∧
      (∀ stop ∈ visited [] root.entries, ∀ key value, (key, value) ∈ stop.entries →
        ∃! fate, HasFate root.entries stop key value fate) ∧
      (∀ stop ∈ visited [] root.entries, ∀ key bucket, Collects stop.entries key bucket →
        ∀ name value, (name, value) ∈ bucket →
          (IsMember root.entries stop key name value ↔
            ¬recordsAt root.entries (stop.keys ++ [key, name]) =
              [⟨stop.keys ++ [key, name], true, value.typeName⟩])) ∧
      (∀ drop ∈ drops [] root.entries,
        drop.Stands root.entries ∧ recordsAt root.entries drop.keys = [drop]) ∧
      ingest false (erase (fun keys => keys ∈ (drops [] root.entries).map Drop.keys) root.value) =
        ⟨[], .ok (ofEntries root.entries)⟩ := by
  refine ⟨ingest_false_eq root.entries, ?_, ?_, ?_, ?_⟩
  · intro stop hstop key value hmem
    exact existsUnique_fate root.distinct hstop hmem
  · intro stop hstop key bucket hcollects name value hmem
    exact isMember_iff root.distinct hstop hcollects hmem
  · intro drop hdrop
    exact ⟨stands_of_mem_drops hdrop, recordsAt_of_mem_drops root.distinct hdrop⟩
  · have hpicks : Picks (fun keys => keys ∈ (drops [] root.entries).map Drop.keys) [] root.entries := by
      intro rest
      simp
    rw [Json.Mapping.value, erase, ingest_false_eq, drops_erase hpicks root.distinct,
      ofEntries_erase hpicks root.distinct]
    rfl

end Node

end Externs
