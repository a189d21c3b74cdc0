import Externs.Node.Ingestion
import Mathlib.Data.List.Basic

/-!
# What lies below a node

A node is described by the entries of an object. Some of these entries hold the objects of further
nodes: nested declarations, and the members in the two buckets of a class or an interface.

* `Json.kindOf`: the kind that the entries of a node name;
* `Json.objects`: the entries that hold objects;
* `Json.nested`, `Json.shortBucket`, `Json.longBucket`: the nodes right below a node;
* `Json.sizeOf_nested` and the like: they are smaller than the node;
* `Json.objects_openEntries`: what ingestion leaves open are the nested declarations.
-/

namespace Externs.Json

set_option autoImplicit false

/-! ## Nodes right below a node -/

/-- The kind that the entries of a node name. -/
def kindOf (entries : Assoc Json) : Option Kind := Kind.ofJson? (field kindKey entries)

/-- Classes and interfaces own members. -/
def ownsMembers (entries : Assoc Json) : Bool := (kindOf entries).any Kind.hasMembers

/-- Nodes without a known kind and containers are open to a walk. -/
def isWalkable (entries : Assoc Json) : Bool := (kindOf entries).all Kind.isContainer

/-- The entries that hold objects, each with the entries of its object. -/
def objects (entries : Assoc Json) : Assoc (Assoc Json) :=
  entries.filterMap fun (key, value) => value.entries?.map (key, ·)

/-- The nested declarations of a node: objects under keys that are not reserved. An object under the
long key of buckets is none if its node owns members, unless it has a kind of its own. -/
def nested (entries : Assoc Json) : Assoc (Assoc Json) :=
  (objects entries).filter fun (key, below) =>
    !reservedKeys.contains key &&
      !(ownsMembers entries && key = membersKey && !Assoc.hasKey kindKey below)

/-- What stands in the bucket under the short key. -/
def shortEntries (entries : Assoc Json) : Assoc Json :=
  if ownsMembers entries then (field bucketKey entries).entries?.getD [] else []

/-- What stands in the bucket under the long key, which has no kind of its own. -/
def longEntries (entries : Assoc Json) : Assoc Json :=
  let bucket := (field membersKey entries).entries?.getD []
  if ownsMembers entries && !Assoc.hasKey kindKey bucket then bucket else []

/-- The members in the bucket under the short key. -/
def shortBucket (entries : Assoc Json) : Assoc (Assoc Json) := objects (shortEntries entries)

/-- The members in the bucket under the long key. -/
def longBucket (entries : Assoc Json) : Assoc (Assoc Json) := objects (longEntries entries)

theorem shortBucket_of_not_owns {entries : Assoc Json} (h : ownsMembers entries = false) :
    shortBucket entries = [] := by
  simp [shortBucket, shortEntries, h, objects]

theorem longBucket_of_not_owns {entries : Assoc Json} (h : ownsMembers entries = false) :
    longBucket entries = [] := by
  simp [longBucket, longEntries, h, objects]

/-! ## Sizes -/

theorem mem_objects {entries : Assoc Json} {key : Text} {below : Assoc Json} :
    (key, below) ∈ objects entries ↔ (key, Json.obj below) ∈ entries := by
  simp only [objects, List.mem_filterMap]
  constructor
  · rintro ⟨⟨k, value⟩, hmem, hvalue⟩
    cases value <;> simp_all [entries?]
  · intro hmem
    exact ⟨(key, .obj below), hmem, rfl⟩

theorem sizeOf_of_mem {entries : Assoc Json} {key : Text} {below : Assoc Json}
    (h : (key, Json.obj below) ∈ entries) : sizeOf below < sizeOf entries := by
  have hlt := List.sizeOf_lt_of_mem h
  simp only [Prod.mk.sizeOf_spec, Json.obj.sizeOf_spec] at hlt
  omega

theorem sizeOf_objects {entries : Assoc Json} {key : Text} {below : Assoc Json}
    (h : (key, below) ∈ objects entries) : sizeOf below < sizeOf entries :=
  sizeOf_of_mem (mem_objects.mp h)

theorem sizeOf_nested {entries : Assoc Json} {key : Text} {below : Assoc Json}
    (h : (key, below) ∈ nested entries) : sizeOf below < sizeOf entries :=
  sizeOf_objects (List.mem_of_mem_filter h)

theorem lookup_of_entries? {key : Text} {entries below : Assoc Json}
    (h : (field key entries).entries? = some below) : Assoc.lookup key entries = some (.obj below) := by
  rw [field] at h
  cases hlook : Assoc.lookup key entries with
  | none => simp [hlook, entries?] at h
  | some value => cases value <;> simp_all [entries?]

theorem sizeOf_nil_le (entries : Assoc Json) : sizeOf ([] : Assoc Json) ≤ sizeOf entries := by
  cases entries with
  | nil => exact Nat.le_refl _
  | cons entry rest =>
    simp only [List.nil.sizeOf_spec, List.cons.sizeOf_spec]
    omega

theorem sizeOf_bucket (key : Text) (entries : Assoc Json) :
    sizeOf ((field key entries).entries?.getD []) ≤ sizeOf entries := by
  cases h : (field key entries).entries? with
  | none => exact sizeOf_nil_le entries
  | some below => exact Nat.le_of_lt (sizeOf_of_mem (Assoc.mem_of_lookup (lookup_of_entries? h)))

theorem sizeOf_shortEntries (entries : Assoc Json) : sizeOf (shortEntries entries) ≤ sizeOf entries := by
  rw [shortEntries]
  split
  · exact sizeOf_bucket bucketKey entries
  · exact sizeOf_nil_le entries

theorem sizeOf_longEntries (entries : Assoc Json) : sizeOf (longEntries entries) ≤ sizeOf entries := by
  rw [longEntries]
  split
  · exact sizeOf_bucket membersKey entries
  · exact sizeOf_nil_le entries

theorem sizeOf_shortBucket {entries : Assoc Json} {key : Text} {below : Assoc Json}
    (h : (key, below) ∈ shortBucket entries) : sizeOf below < sizeOf entries :=
  Nat.lt_of_lt_of_le (sizeOf_objects h) (sizeOf_shortEntries entries)

theorem sizeOf_longBucket {entries : Assoc Json} {key : Text} {below : Assoc Json}
    (h : (key, below) ∈ longBucket entries) : sizeOf below < sizeOf entries :=
  Nat.lt_of_lt_of_le (sizeOf_objects h) (sizeOf_longEntries entries)

/-! ## What ingestion leaves open -/

/-- The entries of a node that are no parts of its declaration and no buckets. -/
def openEntries (entries : Assoc Json) : Assoc Json :=
  entries.filter fun (key, value) => !Node.isStructural (kindOf entries) key value

theorem isStructural_obj (entries below : Assoc Json) (key : Text) :
    Node.isStructural (kindOf entries) key (.obj below) =
      (reservedKeys.contains key ||
        (ownsMembers entries && key = membersKey && !Assoc.hasKey kindKey below)) := by
  simp only [Node.isStructural, Node.isLongBucket, items?, ownsMembers, Option.isSome_none, Bool.false_or]
  rw [← Bool.and_assoc, Bool.and_comm (decide (key = membersKey))]

/-- The objects among the open entries of a node are its nested declarations. -/
theorem objects_openEntries (entries : Assoc Json) : objects (openEntries entries) = nested entries := by
  rw [objects, openEntries, nested, objects, List.filterMap_filter, List.filter_filterMap]
  apply List.filterMap_congr
  rintro ⟨key, value⟩ _
  cases value with
  | obj below => simp only [isStructural_obj, entries?, Option.map_some, Option.filter_some, Bool.not_or]
  | _ => simp [entries?]

end Externs.Json
