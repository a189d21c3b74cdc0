import Externs.Proofs.CheckedRuns
import Externs.Proofs.Replacement

/-!
# The two spellings of a bucket

A bucket of members stands under the short key or under the long one. In a class or an interface that has neither,
it does not matter under which of them a bucket is put, nor where among the entries: the tree is the same, and
notices and faults differ at most in that key.

* `Node.Respelled`: keys that differ at most in the key of one bucket;
* `Node.PassAlike`: two passes that come to the same, up to such keys;
* `Node.perform_alike`: steps that are alike make passes that are alike;
* `Json.Respells`, `Node.Spelled`: a node with a bucket under either key, and what the two have in common;
* `Node.alike_of_within`: the two spellings give the same tree and steps that are alike, wherever the bucket is;
* `Document.bucket_spellings_agree`: a bucket can be added to any class or interface under either key.
-/

namespace Externs

set_option autoImplicit false

namespace Node

open Json

/-! ## Passes that are alike -/

/-- Keys that differ at most in the key of the bucket at a place. -/
def Respelled (place keys keys' : List Text) : Prop :=
  keys = keys' ∨ ∃ rest, keys = place ++ bucketKey :: rest ∧ keys' = place ++ membersKey :: rest

/-- The same notice, or the same about places that differ at most in the key of a bucket. -/
inductive NoticeAlike (place : List Text) : Notice → Notice → Prop where
  | same (notice : Notice) : NoticeAlike place notice notice
  | value {keys keys' : List Text} (h : Respelled place keys keys') (typeName : String) :
      NoticeAlike place (.droppedValue (pathOf keys) typeName) (.droppedValue (pathOf keys') typeName)
  | member {keys keys' : List Text} (h : Respelled place keys keys') (typeName : String) :
      NoticeAlike place (.droppedMember (pathOf keys) typeName) (.droppedMember (pathOf keys') typeName)

/-- The same result, or faults with the same cause at places that differ at most in the key of a bucket. -/
inductive OutcomeAlike (place : List Text) {α : Type} : Except Malformed α → Except Malformed α → Prop where
  | ok (value : α) : OutcomeAlike place (.ok value) (.ok value)
  | error {keys keys' : List Text} (h : Respelled place keys keys') (cause : Malformed.Cause) :
      OutcomeAlike place (.error ⟨cause, some (placeOf keys)⟩) (.error ⟨cause, some (placeOf keys')⟩)

structure PassAlike (place : List Text) {α : Type} (first second : Ingestion α) : Prop where
  notices : List.Forall₂ (NoticeAlike place) first.notices second.notices
  outcome : OutcomeAlike place first.outcome second.outcome

/-- Steps that do the same, up to the key of a bucket. -/
inductive StepAlike (place : List Text) : Step → Step → Prop where
  | node {keys keys' : List Text} {entries entries' : Assoc Json} (h : Respelled place keys keys')
      (hrule : ∀ path, brokenRule? path entries = brokenRule? path entries') :
      StepAlike place (.node ⟨keys, entries⟩) (.node ⟨keys', entries'⟩)
  | value {keys keys' : List Text} (h : Respelled place keys keys') (typeName : String) :
      StepAlike place (.value keys typeName) (.value keys' typeName)
  | member {keys keys' : List Text} (h : Respelled place keys keys') (typeName : String) :
      StepAlike place (.member keys typeName) (.member keys' typeName)

section Alike

variable {place : List Text}

theorem PassAlike.pure {α : Type} (value : α) : PassAlike place (Pure.pure value) (Pure.pure value) :=
  ⟨.nil, .ok value⟩

theorem PassAlike.bind {α β : Type} {first second : Ingestion α} (h : PassAlike place first second)
    {next next' : α → Ingestion β} (hnext : ∀ value, PassAlike place (next value) (next' value)) :
    PassAlike place (first >>= next) (second >>= next') := by
  obtain ⟨notices, outcome⟩ := first
  obtain ⟨notices', outcome'⟩ := second
  obtain ⟨hnotices, houtcome⟩ := h
  cases houtcome with
  | ok value => exact ⟨List.rel_append hnotices (hnext value).notices, (hnext value).outcome⟩
  | error hkeys cause => exact ⟨hnotices, .error hkeys cause⟩

theorem StepAlike.refl (step : Step) : StepAlike place step step := by
  cases step with
  | node stop => exact .node (.inl rfl) fun _ => rfl
  | value keys typeName => exact .value (.inl rfl) typeName
  | member keys typeName => exact .member (.inl rfl) typeName

/-- Only whether a path is empty matters for the rules. -/
theorem brokenRule?_congr {path path' : Text} (h : path.isEmpty = path'.isEmpty) (entries : Assoc Json) :
    brokenRule? path entries = brokenRule? path' entries := by
  simp only [brokenRule?, h]

theorem Respelled.isEmpty_eq {keys keys' : List Text} (h : Respelled place keys keys') :
    (pathOf keys).isEmpty = (pathOf keys').isEmpty := by
  rcases h with rfl | ⟨rest, rfl, rfl⟩
  · rfl
  · have hshort : bucketKey.isEmpty = false := by decide
    have hlong : membersKey.isEmpty = false := by decide
    simp [pathOf_isEmpty, hshort, hlong]

theorem check_eq_placeOf (keys : List Text) (entries : Assoc Json) :
    check (pathOf keys) entries =
      (brokenRule? (pathOf keys) entries).elim (.ok ()) fun cause => .error ⟨cause, some (placeOf keys)⟩ := by
  rw [check, placeOf_eq]
  cases brokenRule? (pathOf keys) entries with
  | some cause => rfl
  | none => rfl

theorem StepAlike.act {step step' : Step} (h : StepAlike place step step') (validate : Bool) :
    PassAlike place (step.act validate) (step'.act validate) := by
  cases h with
  | @node keys keys' entries entries' hkeys hrule =>
    cases validate with
    | false => exact .pure ()
    | true =>
      -- The path matters for the rules only in that the root has none, and both are the root or neither is.
      have hsame : brokenRule? (pathOf keys') entries' = brokenRule? (pathOf keys) entries := by
        rw [← hrule, brokenRule?_congr hkeys.isEmpty_eq]
      refine ⟨.nil, ?_⟩
      change OutcomeAlike place (check (pathOf keys) entries) (check (pathOf keys') entries')
      rw [check_eq_placeOf, check_eq_placeOf, hsame]
      cases brokenRule? (pathOf keys) entries with
      | some cause => exact .error hkeys cause
      | none => exact .ok ()
  | value hkeys typeName => exact ⟨.cons (.value hkeys typeName) .nil, .ok ()⟩
  | member hkeys typeName => exact ⟨.cons (.member hkeys typeName) .nil, .ok ()⟩

/-- **Steps that are alike make passes that are alike.** -/
theorem perform_alike {first second : List Step} (h : List.Forall₂ (StepAlike place) first second)
    (validate : Bool) : PassAlike place (perform validate first) (perform validate second) := by
  induction h with
  | nil => exact .pure ()
  | cons hstep _ ih =>
    rw [perform_cons, perform_cons]
    exact (hstep.act validate).bind fun _ => ih

end Alike

/-! ## Steps at another place -/

/-- The step with more keys in front. -/
def Step.under (front : List Text) : Step → Step
  | .node stop => .node ⟨front ++ stop.keys, stop.entries⟩
  | .value keys typeName => .value (front ++ keys) typeName
  | .member keys typeName => .member (front ++ keys) typeName

theorem Slot.under_drop (front keys : List Text) (slot : Slot) (typeName : String) :
    (slot.drop keys typeName).under front = slot.drop (front ++ keys) typeName := by
  rw [Slot.drop, Slot.drop]
  cases slot.inBucket <;> simp [Step.under]

/-- The steps at a node do not depend on where it stands. -/
theorem steps_under (front keys : List Text) (entries : Assoc Json) :
    steps (front ++ keys) entries = (steps keys entries).map (Step.under front) := by
  rw [steps_eq_slots, steps_eq_slots, List.map_cons, List.map_flatMap]
  refine congrArg (List.cons _) (List.flatMap_congr fun slot hslot => ?_)
  rw [Slot.steps, Slot.steps]
  cases hvalue : slot.value with
  | obj below =>
    have hbelow := steps_under front (keys ++ slot.way) below
    rwa [← List.append_assoc] at hbelow
  | _ => simp [stepsAt, Slot.under_drop]
termination_by sizeOf entries
decreasing_by
  exact sizeOf_slot hslot hvalue

theorem bucketSteps_under (front : List Text) (bucket : Assoc Json) :
    bucketSteps front bucket = (bucketSteps [] bucket).map (Step.under front) := by
  rw [bucketSteps, bucketSteps, List.map_flatMap]
  refine List.flatMap_congr fun entry _ => ?_
  obtain ⟨name, value⟩ := entry
  cases value with
  | obj below => exact steps_under front [name] below
  | _ => rfl

theorem Step.under_alike (place : List Text) (step : Step) :
    StepAlike place (step.under (place ++ [bucketKey])) (step.under (place ++ [membersKey])) := by
  have hkeys (keys : List Text) : Respelled place (place ++ [bucketKey] ++ keys) (place ++ [membersKey] ++ keys) :=
    .inr ⟨keys, by simp, by simp⟩
  cases step with
  | node stop => exact .node (hkeys _) fun _ => rfl
  | value keys typeName => exact .value (hkeys _) typeName
  | member keys typeName => exact .member (hkeys _) typeName

theorem bucketSteps_alike (place : List Text) (bucket : Assoc Json) :
    List.Forall₂ (StepAlike place) (bucketSteps (place ++ [bucketKey]) bucket)
      (bucketSteps (place ++ [membersKey]) bucket) := by
  rw [bucketSteps_under (place ++ [bucketKey]), bucketSteps_under (place ++ [membersKey]),
    List.forall₂_map_left_iff, List.forall₂_map_right_iff, List.forall₂_same]
  exact fun step _ => step.under_alike place

end Node

/-! ## A bucket under either key -/

/-- The entries with one more among them: after the first `position` of them, or after all if they are fewer. -/
def Assoc.insertAt {α : Type} (position : Nat) (key : Text) (value : α) (entries : Assoc α) : Assoc α :=
  entries.take position ++ (key, value) :: entries.drop position

theorem Assoc.lookup_insertAt_of_ne {α : Type} {key other : Text} (h : other ≠ key) (position : Nat) (value : α)
    (entries : Assoc α) : lookup other (insertAt position key value entries) = lookup other entries := by
  rw [insertAt, lookup_drop_of_ne h, List.take_append_drop]

/-- A class or an interface without buckets, to which a bucket is added: under the short key, and under the long
one. -/
inductive Json.Respells (bucket : Assoc Json) : Assoc Json → Assoc Json → Prop where
  | mk {entries : Assoc Json} (position position' : Nat) (howns : ownsMembers entries = true)
      (hshort : Assoc.hasKey bucketKey entries = false) (hlong : Assoc.hasKey membersKey entries = false)
      (hkind : Assoc.hasKey kindKey bucket = false) :
      Respells bucket (Assoc.insertAt position bucketKey (.obj bucket) entries)
        (Assoc.insertAt position' membersKey (.obj bucket) entries)

namespace Node

open Json

section Inserted

variable {entries bucket : Assoc Json} {key : Text} {position : Nat}

theorem field_insertAt_of_ne {other : Text} (h : other ≠ key) (position : Nat) (value : Json) (entries : Assoc Json) :
    field other (Assoc.insertAt position key value entries) = field other entries := by
  rw [field, Assoc.lookup_insertAt_of_ne h, field]

theorem distinct_insertAt_iff : Distinct (Assoc.insertAt position key (.obj bucket) entries) ↔
    Assoc.hasKey key entries = false ∧ Distinct bucket ∧ Distinct entries := by
  have hperm : (Assoc.insertAt position key (.obj bucket) entries).Perm ((key, .obj bucket) :: entries) := by
    refine List.perm_middle.trans (List.Perm.cons _ ?_)
    rw [List.take_append_drop]
  have hnot : key ∉ entries.map Prod.fst ↔ Assoc.hasKey key entries = false := by
    rw [← Assoc.hasKey_iff, Bool.not_eq_true]
  rw [distinct_iff, (hperm.map Prod.fst).nodup_iff, List.map_cons, List.nodup_cons, hnot]
  simp only [hperm.mem_iff, List.forall_mem_cons]
  rw [distinct_iff entries]
  tauto

theorem kindOf_insertAt (hkey : key = bucketKey ∨ key = membersKey) :
    kindOf (Assoc.insertAt position key (.obj bucket) entries) = kindOf entries := by
  have hne : kindKey ≠ key := by
    rcases hkey with rfl | rfl
    · decide
    · decide
  rw [kindOf, field_insertAt_of_ne hne, kindOf]

theorem collects_insertAt (h : Distinct (Assoc.insertAt position key (.obj bucket) entries))
    (hkey : key = bucketKey ∨ key = membersKey) (howns : ownsMembers entries = true)
    (hkind : Assoc.hasKey kindKey bucket = false) :
    Collects (Assoc.insertAt position key (.obj bucket) entries) key bucket := by
  refine ⟨?_, Assoc.lookup_of_mem h.nodup (List.mem_append_right _ List.mem_cons_self), ?_⟩
  · rw [ownsMembers, kindOf_insertAt hkey]
    exact howns
  · exact hkey.imp_right fun hlong => ⟨hlong, hkind⟩

/-- A bucket is not open. -/
theorem openEntries_insertAt (h : Collects (Assoc.insertAt position key (.obj bucket) entries) key bucket)
    (hkey : key = bucketKey ∨ key = membersKey) :
    openEntries (Assoc.insertAt position key (.obj bucket) entries) = openEntries entries := by
  have hstructural := h.isStructural
  rw [kindOf_insertAt hkey] at hstructural
  rw [openEntries, kindOf_insertAt hkey, Assoc.insertAt, List.filter_append,
    List.filter_cons_of_neg (by simp [hstructural]), ← List.filter_append, List.take_append_drop, openEntries]

end Inserted

/-- What two nodes with the same bucket under different keys have in common. -/
structure Spelled (bucket first second : Assoc Json) : Prop where
  fields : ∀ key, key ≠ bucketKey → key ≠ membersKey → field key first = field key second
  noLists : (field membersKey first).items? = none ∧ (field membersKey second).items? = none
  owns : ownsMembers first = true
  opened : openEntries first = openEntries second
  short : shortEntries first = bucket ∧ shortEntries second = []
  long : longEntries first = [] ∧ longEntries second = bucket

theorem distinct_of_respells {bucket first second : Assoc Json} (h : Respells bucket first second)
    (hfirst : Distinct first) : Distinct second := by
  obtain ⟨_, _, _, _, hlong, _⟩ := h
  obtain ⟨_, hbelow⟩ := distinct_insertAt_iff.mp hfirst
  exact distinct_insertAt_iff.mpr ⟨hlong, hbelow⟩

theorem field_of_not_hasKey {key : Text} {entries : Assoc Json} (h : Assoc.hasKey key entries = false) :
    field key entries = .null := by
  rw [Assoc.hasKey, Option.isSome_eq_false_iff, Option.isNone_iff_eq_none] at h
  rw [field, h]
  rfl

theorem spelled_of_respells {bucket first second : Assoc Json} (h : Respells bucket first second)
    (hfirst : Distinct first) : Spelled bucket first second := by
  have hsecond := distinct_of_respells h hfirst
  cases h with
  | @mk entries position position' howns hshort hlong hkind =>
    have hcollects := collects_insertAt hfirst (.inl rfl) howns hkind
    have hcollects' := collects_insertAt hsecond (.inr rfl) howns hkind
    -- The other key is missing on each side, so the other bucket is empty and no list of members is there.
    have hnoLong : field membersKey (Assoc.insertAt position bucketKey (.obj bucket) entries) = .null := by
      rw [field_insertAt_of_ne (by decide), field_of_not_hasKey hlong]
    have hnoShort : field bucketKey (Assoc.insertAt position' membersKey (.obj bucket) entries) = .null := by
      rw [field_insertAt_of_ne (by decide), field_of_not_hasKey hshort]
    refine ⟨?_, ⟨?_, ?_⟩, hcollects.1, ?_, ⟨?_, ?_⟩, ⟨?_, ?_⟩⟩
    · intro key hkey hkey'
      rw [field_insertAt_of_ne hkey, field_insertAt_of_ne hkey']
    · rw [hnoLong]
      rfl
    · rw [field, hcollects'.2.1]
      rfl
    · rw [openEntries_insertAt hcollects (.inl rfl), openEntries_insertAt hcollects' (.inr rfl)]
    · rcases hcollects.eq_entries with ⟨_, heq⟩ | ⟨hkey, _⟩
      · exact heq
      · cases hkey
    · simp [shortEntries, hnoShort, entries?]
    · simp [longEntries, hnoLong, entries?]
    · rcases hcollects'.eq_entries with ⟨hkey, _⟩ | ⟨_, heq⟩
      · cases hkey
      · exact heq

namespace Spelled

variable {bucket first second : Assoc Json} (h : Spelled bucket first second)
include h

theorem not_enum : Kind.ofJson? (field kindKey second) ≠ some .enumKind := by
  intro heq
  have howns := h.owns
  rw [ownsMembers, kindOf, h.fields kindKey (by decide) (by decide), heq] at howns
  cases howns

/-- The members of an enumeration are the only rule about the long key. -/
theorem brokenRule?_eq (path : Text) : brokenRule? path first = brokenRule? path second := by
  have hkind := h.fields kindKey (by decide) (by decide)
  have hname := h.fields qualifiedNameKey (by decide) (by decide)
  have hparameters := h.fields parametersKey (by decide) (by decide)
  simp only [brokenRule?, hkind, hname, hparameters, h.not_enum, decide_false, Bool.false_and]

theorem declaration_eq : Declaration.ofEntries first = Declaration.ofEntries second := by
  simp (disch := decide) only [Declaration.ofEntries, h.fields, h.noLists.1, h.noLists.2]

theorem ofEntries_eq (hfirst : Distinct first) (hsecond : Distinct second) :
    ofEntries first = ofEntries second := by
  have hmembers : Json.members first = Json.members second := by
    rw [Json.members, Json.members, shortBucket, shortBucket, longBucket, longBucket, h.short.1, h.short.2,
      h.long.1, h.long.2]
    exact (Assoc.overlay_nil _).trans (Assoc.nil_overlay _).symm
  rw [Node.ofEntries_eq, Node.ofEntries_eq, merge_treesOf hfirst, merge_treesOf hsecond, hmembers, h.declaration_eq,
    ← objects_openEntries, ← objects_openEntries, h.opened]

theorem forall₂_steps (keys : List Text) :
    List.Forall₂ (StepAlike keys) (steps keys first) (steps keys second) := by
  rw [steps_eq, steps_eq, h.opened, h.short.1, h.short.2, h.long.1, h.long.2]
  refine .cons (.node (.inl rfl) h.brokenRule?_eq) ?_
  have hnone (place : List Text) : bucketSteps place [] = [] := rfl
  rw [hnone, hnone, List.append_nil, List.append_nil]
  refine List.rel_append ?_ (bucketSteps_alike keys bucket)
  exact List.forall₂_same.mpr fun step _ => .refl step

end Spelled

/-- **Wherever a bucket is**, its two spellings give the same tree and steps that are alike. -/
theorem alike_of_within {bucket first second : Assoc Json} {keys : List Text}
    (h : Within (Respells bucket) keys first second) (hfirst : Distinct first) :
    ofEntries first = ofEntries second ∧
      ∀ front, List.Forall₂ (StepAlike (front ++ keys)) (steps front first) (steps front second) := by
  refine h.carry (P := fun keys first second => ofEntries first = ofEntries second ∧
    ∀ front, List.Forall₂ (StepAlike (front ++ keys)) (steps front first) (steps front second))
    distinct_of_respells ?_ ?_ hfirst
  · intro first second hchange hdistinct
    have hspelled := spelled_of_respells hchange hdistinct
    refine ⟨hspelled.ofEntries_eq hdistinct (distinct_of_respells hchange hdistinct), fun front => ?_⟩
    rw [List.append_nil]
    exact hspelled.forall₂_steps front
  · rintro way keys first second whole whole' hdiffers ⟨htree, hsteps⟩
    refine ⟨hdiffers.ofEntries_eq htree, fun front => ?_⟩
    -- The place of the bucket, seen from the node above, has the way to the node below in front.
    refine hdiffers.forall₂_steps StepAlike.refl (.node (.inl rfl) hdiffers.parts.brokenRule?_eq) ?_
    rw [← List.append_assoc]
    exact hsteps (front ++ way)

/-- The root with a bucket added under `key` to the node that `keys` lead to. -/
def withBucket (root : Assoc Json) (keys : List Text) (position : Nat) (key : Text) (bucket : Assoc Json) : Json :=
  .obj (editAt (Assoc.insertAt position key (.obj bucket)) keys root)

/-- A bucket can be added to any node of a pass, under either key. -/
theorem within_withBucket {root bucket : Assoc Json} (h : Distinct root) (hbucket : Distinct bucket) {stop : Stop}
    (hstop : stop ∈ visited [] root) (howns : ownsMembers stop.entries = true)
    (hshort : Assoc.hasKey bucketKey stop.entries = false) (hlong : Assoc.hasKey membersKey stop.entries = false)
    (hkind : Assoc.hasKey kindKey bucket = false) (position position' : Nat) :
    Distinct (editAt (Assoc.insertAt position bucketKey (.obj bucket)) stop.keys root) ∧
      Within (Respells bucket) stop.keys (editAt (Assoc.insertAt position bucketKey (.obj bucket)) stop.keys root)
        (editAt (Assoc.insertAt position' membersKey (.obj bucket)) stop.keys root) := by
  obtain ⟨keys, hkeys, hfocus⟩ := exists_focus h (mem_visited.mp hstop)
  rw [List.nil_append] at hkeys
  subst hkeys
  have hkeep (position : Nat) {key : Text} (hne : kindKey ≠ key) :
      Assoc.hasKey kindKey (Assoc.insertAt position key (.obj bucket) stop.entries) =
        Assoc.hasKey kindKey stop.entries := by
    rw [Assoc.hasKey, Assoc.lookup_insertAt_of_ne hne, Assoc.hasKey]
  have hnode := distinct_stop h (mem_visited.mp hstop)
  refine ⟨hfocus.distinct h (hkeep _ (by decide)) (distinct_insertAt_iff.mpr ⟨hshort, hbucket, hnode⟩), ?_⟩
  exact hfocus.within (hkeep _ (by decide)) (hkeep _ (by decide)) ⟨position, position', howns, hshort, hlong, hkind⟩

end Node

namespace Document

/-- Two values that are read alike, up to the key of the bucket at `place`: without checks they give the same tree
and the same document, and with checks or without two passes that are alike. -/
structure Interchangeable (place : List Text) (first second : Json) : Prop where
  unchecked : ∃ tree, (Node.ingest false first).outcome = .ok tree ∧ (Node.ingest false second).outcome = .ok tree ∧
    ∀ policy settings, settings.validateInput = false →
      (ofJson policy settings first).outcome = .ok (ofTree policy settings tree) ∧
        (ofJson policy settings second).outcome = .ok (ofTree policy settings tree)
  pass : ∀ validate, Node.PassAlike place (Node.ingest validate first) (Node.ingest validate second)
  document : ∀ policy settings, Node.PassAlike place (ofJson policy settings first) (ofJson policy settings second)

theorem interchangeable_of_alike {place : List Text} {first second : Assoc Json}
    (htree : Node.ofEntries first = Node.ofEntries second)
    (hsteps : List.Forall₂ (Node.StepAlike place) (Node.steps [] first) (Node.steps [] second)) :
    Interchangeable place (.obj first) (.obj second) := by
  have hpass (validate : Bool) :
      Node.PassAlike place (Node.ingest validate (.obj first)) (Node.ingest validate (.obj second)) := by
    rw [Node.ingest_obj, Node.ingest_obj, htree]
    exact (Node.perform_alike hsteps validate).bind fun _ => .pure _
  refine ⟨unchecked_of_ofEntries_eq htree, hpass, fun policy settings => ?_⟩
  refine (hpass settings.validateInput).bind fun tree => ⟨?_, .ok _⟩
  exact List.forall₂_same.mpr fun notice _ => .same notice

/-- **The two spellings of a bucket are interchangeable.** A mapping without a kind is added to a class or an
interface that has no bucket, anywhere in a tree: under the short key or under the long one, and at any positions
among its entries. Both give the same tree, after notices that differ at most in that key; or, if nodes are checked,
both fail with the same cause, at places that differ at most in that key. -/
theorem bucket_spellings_agree (root bucket : Json.Mapping) {stop : Node.Stop}
    (hstop : stop ∈ Node.visited [] root.entries) (howns : Json.ownsMembers stop.entries = true)
    (hshort : Assoc.hasKey Json.bucketKey stop.entries = false)
    (hlong : Assoc.hasKey Json.membersKey stop.entries = false)
    (hkind : Assoc.hasKey Json.kindKey bucket.entries = false) (position position' : Nat) :
    Interchangeable stop.keys (Node.withBucket root.entries stop.keys position Json.bucketKey bucket.entries)
      (Node.withBucket root.entries stop.keys position' Json.membersKey bucket.entries) := by
  obtain ⟨hdistinct, hwithin⟩ := Node.within_withBucket root.distinct bucket.distinct hstop howns hshort hlong hkind
    position position'
  obtain ⟨htree, hsteps⟩ := Node.alike_of_within hwithin hdistinct
  exact interchangeable_of_alike htree (hsteps [])

/-- A class with a method. -/
def memberlessSample : Assoc Json := [("kind", .str "Class"), ("qualifiedName", .str "M.C"),
  ("f", .obj [("kind", .str "Method"), ("qualifiedName", .str "M.C.f")])]

/-- The class in a module. -/
def spellingSample : Json.Mapping where
  entries := [("M", .obj [("kind", .str "Module"), ("qualifiedName", .str "M"), ("C", .obj memberlessSample)])]
  distinct := by decide

/-- A bucket with a value that is no member, and with a member that has no name. -/
def faultyBucket : Json.Mapping where
  entries := [("n", .int 3), ("m", .obj [("kind", .str "Method")])]
  distinct := by decide

theorem spellingSample_visited : ⟨["M", "C"], memberlessSample⟩ ∈ Node.visited [] spellingSample.entries := by
  have hroot : ⟨[], spellingSample.entries⟩ ∈ Node.visited [] spellingSample.entries := by
    rw [Node.visited_eq]
    exact List.mem_cons_self
  have hmodule := (Node.mem_visited_slot spellingSample.distinct hroot (Node.slot_of_open (.head _))).mpr rfl
  exact (Node.mem_visited_slot spellingSample.distinct hmodule (Node.slot_of_open (.head _))).mpr rfl

/-- With the faulty bucket in the class, the pass drops a value and fails right below the key of the bucket. -/
theorem bucket_spellings_agree_faulty :
    ⟨["M", "C"], memberlessSample⟩ ∈ Node.visited [] spellingSample.entries ∧
      Json.ownsMembers memberlessSample = true ∧ Assoc.hasKey Json.bucketKey memberlessSample = false ∧
      Assoc.hasKey Json.membersKey memberlessSample = false ∧ Assoc.hasKey Json.kindKey faultyBucket.entries = false ∧
      Interchangeable ["M", "C"] (Node.withBucket spellingSample.entries ["M", "C"] 0 "#" faultyBucket.entries)
        (Node.withBucket spellingSample.entries ["M", "C"] 3 "members" faultyBucket.entries) ∧
      Node.ingest true (Node.withBucket spellingSample.entries ["M", "C"] 0 "#" faultyBucket.entries) =
        ⟨[.droppedMember "M.C.#.n" "int"], .error ⟨.missingName, some "M.C.#.m"⟩⟩ ∧
      Node.ingest true (Node.withBucket spellingSample.entries ["M", "C"] 3 "members" faultyBucket.entries) =
        ⟨[.droppedMember "M.C.members.n" "int"], .error ⟨.missingName, some "M.C.members.m"⟩⟩ :=
  ⟨spellingSample_visited, rfl, rfl, rfl, rfl,
    bucket_spellings_agree spellingSample faultyBucket spellingSample_visited rfl rfl rfl rfl 0 3, rfl, rfl⟩

end Document

end Externs
