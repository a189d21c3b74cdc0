import Externs.Proofs.Below
import Mathlib.Data.List.Nodup

/-!
# Mappings

The keys of a mapping are all different, and so are those of the mappings in it. Entries with one key
twice are no mapping.

* `Json.keysDiffer`: the keys of all objects in a value are different, each object by itself;
* `Json.Mapping`: the entries of such an object;
* `Json.Distinct.of_nested` and the like: what lies below a mapping are mappings;
* `Json.Distinct.nodup_nested` and the like: the names below a mapping are different.
-/

namespace Externs.Json

set_option autoImplicit false

mutual

/-- Whether the keys of every object in a value are all different, at any depth. -/
def keysDiffer : Json → Bool
  | .arr items => itemKeysDiffer items
  | .obj entries => (entries.map Prod.fst).Nodup && entryKeysDiffer entries
  | _ => true

/-- The same for every item of an array. -/
def itemKeysDiffer : List Json → Bool
  | [] => true
  | item :: rest => keysDiffer item && itemKeysDiffer rest

/-- The same for the value of every entry. -/
def entryKeysDiffer : List (Text × Json) → Bool
  | [] => true
  | (_, value) :: rest => keysDiffer value && entryKeysDiffer rest

end

theorem entryKeysDiffer_iff (entries : Assoc Json) :
    entryKeysDiffer entries = true ↔ ∀ entry ∈ entries, keysDiffer entry.2 = true := by
  induction entries with
  | nil => simp [entryKeysDiffer]
  | cons entry rest ih =>
    obtain ⟨key, value⟩ := entry
    simp [entryKeysDiffer, ih]

/-- The keys of a mapping are different, and so are those in its values. -/
def Distinct (entries : Assoc Json) : Prop := keysDiffer (.obj entries) = true

instance (entries : Assoc Json) : Decidable (Distinct entries) :=
  inferInstanceAs (Decidable (keysDiffer (.obj entries) = true))

theorem distinct_iff (entries : Assoc Json) :
    Distinct entries ↔
      (entries.map Prod.fst).Nodup ∧ ∀ entry ∈ entries, keysDiffer entry.2 = true := by
  rw [Distinct, keysDiffer, Bool.and_eq_true, decide_eq_true_iff, entryKeysDiffer_iff]

/-- The entries of an object whose keys are all different, as they are in its values at any depth. -/
structure Mapping where
  entries : Assoc Json
  distinct : Distinct entries

/-- The value that a mapping is. -/
def Mapping.value (mapping : Mapping) : Json := .obj mapping.entries

/-! ## What lies below a mapping -/

theorem keys_objects_sublist (entries : Assoc Json) :
    ((objects entries).map Prod.fst).Sublist (entries.map Prod.fst) := by
  induction entries with
  | nil => exact List.Sublist.refl _
  | cons entry rest ih =>
    obtain ⟨key, value⟩ := entry
    cases value with
    | obj below => exact ih.cons_cons key
    | _ => exact ih.cons key

section Below

variable {entries : Assoc Json} (h : Distinct entries)
include h

theorem Distinct.nodup : (entries.map Prod.fst).Nodup := ((distinct_iff entries).mp h).1

theorem Distinct.of_mem {key : Text} {below : Assoc Json} (hmem : (key, Json.obj below) ∈ entries) :
    Distinct below :=
  ((distinct_iff entries).mp h).2 _ hmem

theorem Distinct.bucket (key : Text) : Distinct ((field key entries).entries?.getD []) := by
  cases hbucket : (field key entries).entries? with
  | none => rfl
  | some below => exact h.of_mem (Assoc.mem_of_lookup (lookup_of_entries? hbucket))

theorem Distinct.shortEntries : Distinct (shortEntries entries) := by
  rw [Json.shortEntries]
  split
  · exact h.bucket bucketKey
  · rfl

theorem Distinct.longEntries : Distinct (longEntries entries) := by
  rw [Json.longEntries]
  split
  · exact h.bucket membersKey
  · rfl

theorem Distinct.of_objects {key : Text} {below : Assoc Json} (hmem : (key, below) ∈ objects entries) :
    Distinct below :=
  h.of_mem (mem_objects.mp hmem)

theorem Distinct.nodup_objects : ((objects entries).map Prod.fst).Nodup :=
  h.nodup.sublist (keys_objects_sublist entries)

theorem Distinct.of_nested {key : Text} {below : Assoc Json} (hmem : (key, below) ∈ nested entries) :
    Distinct below :=
  h.of_objects (List.mem_of_mem_filter hmem)

theorem Distinct.nodup_nested : ((nested entries).map Prod.fst).Nodup :=
  h.nodup_objects.sublist (List.filter_sublist.map Prod.fst)

theorem Distinct.of_shortBucket {name : Text} {below : Assoc Json}
    (hmem : (name, below) ∈ shortBucket entries) : Distinct below :=
  h.shortEntries.of_objects hmem

theorem Distinct.nodup_shortBucket : ((shortBucket entries).map Prod.fst).Nodup :=
  h.shortEntries.nodup_objects

theorem Distinct.of_longBucket {name : Text} {below : Assoc Json}
    (hmem : (name, below) ∈ longBucket entries) : Distinct below :=
  h.longEntries.of_objects hmem

theorem Distinct.nodup_longBucket : ((longBucket entries).map Prod.fst).Nodup :=
  h.longEntries.nodup_objects

end Below

end Externs.Json
