import Externs.Proofs.Mapping
import Externs.Proofs.Overlay
import Externs.Proofs.Pass

/-!
# Positions

A position in a mapping is a list of keys. Some positions are reached from the root, and some of these
hold declarations. A member in one bucket may stand in the way of a member in the other.

* `Json.Reached`: the positions that are reached, each with the mapping that it holds;
* `Json.Declares`: those that hold a declaration under a name;
* `Json.Overwritten`: those at or below a member of the short bucket whose name the long one has too;
* `Json.reached_cases`: how a position is reached, by its first step;
* `Json.overwritten_nested` and the like: what the first step has to do with being overwritten.
-/

namespace Externs.Json

set_option autoImplicit false

/-! ## Reached positions -/

/-- `Reached entries keys target`: from the node with these entries, the keys lead to the mapping
`target`. A node that is open to a walk is left under any key that is not reserved, and a class or an
interface through either of its buckets. A bucket under the long key has no kind of its own. -/
inductive Reached : Assoc Json → List Text → Assoc Json → Prop where
  | root (entries : Assoc Json) : Reached entries [] entries
  | child {entries below target : Assoc Json} {key : Text} {keys : List Text}
      (hwalk : isWalkable entries = true) (hkey : key ∉ reservedKeys)
      (hbelow : Assoc.lookup key entries = some (.obj below)) (hrest : Reached below keys target) :
      Reached entries (key :: keys) target
  | short {entries bucket below target : Assoc Json} {name : Text} {keys : List Text}
      (howns : ownsMembers entries = true) (hbucket : Assoc.lookup bucketKey entries = some (.obj bucket))
      (hbelow : Assoc.lookup name bucket = some (.obj below)) (hrest : Reached below keys target) :
      Reached entries (bucketKey :: name :: keys) target
  | long {entries bucket below target : Assoc Json} {name : Text} {keys : List Text}
      (howns : ownsMembers entries = true) (hbucket : Assoc.lookup membersKey entries = some (.obj bucket))
      (hkind : Assoc.hasKey kindKey bucket = false)
      (hbelow : Assoc.lookup name bucket = some (.obj below)) (hrest : Reached below keys target) :
      Reached entries (membersKey :: name :: keys) target

/-- A position with a declaration: it is reached, it holds a mapping of a known kind, and its last key
is not empty. The root has no key. -/
def Declares (root : Assoc Json) (stop : Node.Stop) : Prop :=
  Reached root stop.keys stop.entries ∧ kindOf stop.entries ≠ none ∧ stop.keys.getLastD [] ≠ []

/-- The positions with declarations. -/
def positions (root : Assoc Json) : Set (List Text) := { keys | ∃ entries, Declares root ⟨keys, entries⟩ }

/-- A position at or below a member of a short bucket under whose name the long bucket of the same node
has a member too. -/
def Overwritten (root : Assoc Json) (keys : List Text) : Prop :=
  ∃ above entries name rest, Reached root above entries ∧
    name ∈ (shortBucket entries).map Prod.fst ∧ name ∈ (longBucket entries).map Prod.fst ∧
    keys = above ++ bucketKey :: name :: rest

/-! ## Keys of a node -/

theorem bucketKey_mem_reservedKeys : bucketKey ∈ reservedKeys := by decide

theorem membersKey_not_mem_reservedKeys : membersKey ∉ reservedKeys := by decide

theorem membersKey_ne_bucketKey : membersKey ≠ bucketKey := by decide

theorem mem_nested {entries below : Assoc Json} {key : Text} :
    (key, below) ∈ nested entries ↔
      (key, Json.obj below) ∈ entries ∧ key ∉ reservedKeys ∧
        ¬(ownsMembers entries = true ∧ key = membersKey ∧ Assoc.hasKey kindKey below = false) := by
  simp only [nested, List.mem_filter, mem_objects]
  cases ownsMembers entries <;> simp [imp_iff_not_or]

theorem nested_ne_bucketKey {entries below : Assoc Json} {key : Text}
    (hmem : (key, below) ∈ nested entries) :
    key ≠ bucketKey := by
  rintro rfl
  exact (mem_nested.mp hmem).2.1 bucketKey_mem_reservedKeys

theorem mem_objects_iff_lookup {entries : Assoc Json} (h : Distinct entries) {key : Text}
    {below : Assoc Json} :
    (key, below) ∈ objects entries ↔ Assoc.lookup key entries = some (.obj below) := by
  rw [mem_objects]
  exact ⟨Assoc.lookup_of_mem h.nodup, Assoc.mem_of_lookup⟩

theorem entries?_getD_of_lookup {entries bucket : Assoc Json} {key : Text}
    (h : Assoc.lookup key entries = some (.obj bucket)) : (field key entries).entries?.getD [] = bucket := by
  rw [field, h]
  rfl

theorem mem_shortBucket {entries : Assoc Json} (h : Distinct entries) {name : Text}
    {below : Assoc Json} :
    (name, below) ∈ shortBucket entries ↔
      ownsMembers entries = true ∧ ∃ bucket, Assoc.lookup bucketKey entries = some (.obj bucket) ∧
        Assoc.lookup name bucket = some (.obj below) := by
  rw [shortBucket, mem_objects_iff_lookup h.shortEntries]
  constructor
  · intro hlook
    rw [shortEntries] at hlook
    split at hlook
    · next howns =>
      cases hbucket : (field bucketKey entries).entries? with
      | none =>
        rw [hbucket] at hlook
        cases hlook
      | some bucket =>
        rw [hbucket] at hlook
        exact ⟨howns, bucket, lookup_of_entries? hbucket, hlook⟩
    · cases hlook
  · rintro ⟨howns, bucket, hbucket, hlook⟩
    rw [shortEntries, if_pos howns, entries?_getD_of_lookup hbucket]
    exact hlook

theorem mem_longBucket {entries : Assoc Json} (h : Distinct entries) {name : Text} {below : Assoc Json} :
    (name, below) ∈ longBucket entries ↔
      ownsMembers entries = true ∧ ∃ bucket, Assoc.lookup membersKey entries = some (.obj bucket) ∧
        Assoc.hasKey kindKey bucket = false ∧ Assoc.lookup name bucket = some (.obj below) := by
  rw [longBucket, mem_objects_iff_lookup h.longEntries]
  constructor
  · intro hlook
    rw [longEntries] at hlook
    split at hlook
    · next howns =>
      cases hbucket : (field membersKey entries).entries? with
      | none =>
        rw [hbucket] at hlook
        cases hlook
      | some bucket =>
        rw [hbucket] at hlook howns
        obtain ⟨howns, hkind⟩ : ownsMembers entries = true ∧ Assoc.hasKey kindKey bucket = false := by
          simpa using howns
        exact ⟨howns, bucket, lookup_of_entries? hbucket, hkind, hlook⟩
    · cases hlook
  · rintro ⟨howns, bucket, hbucket, hkind, hlook⟩
    have hbucket' := entries?_getD_of_lookup hbucket
    simp only [longEntries, hbucket', howns, hkind]
    exact hlook

theorem ownsMembers_of_kindless {entries : Assoc Json} (h : Assoc.hasKey kindKey entries = false) :
    kindOf entries = none ∧ ownsMembers entries = false := by
  have hnone : Assoc.lookup kindKey entries = none := by simpa [Assoc.hasKey] using h
  have hkind : kindOf entries = none := by
    rw [kindOf, field, hnone]
    rfl
  rw [ownsMembers, hkind]
  exact ⟨rfl, rfl⟩

/-! ## First steps -/

theorem eq_of_reached_nil {entries target : Assoc Json} (h : Reached entries [] target) :
    target = entries := by
  cases h
  rfl

section Steps

variable {entries target : Assoc Json} (h : Distinct entries)
include h

theorem reached_nested (hwalk : isWalkable entries = true) {key : Text} {below : Assoc Json}
    (hmem : (key, below) ∈ nested entries) {keys : List Text} (hrest : Reached below keys target) :
    Reached entries (key :: keys) target := by
  obtain ⟨hin, hkey, _⟩ := mem_nested.mp hmem
  exact .child hwalk hkey (Assoc.lookup_of_mem h.nodup hin) hrest

theorem reached_short {name : Text} {below : Assoc Json} (hmem : (name, below) ∈ shortBucket entries)
    {keys : List Text} (hrest : Reached below keys target) :
    Reached entries (bucketKey :: name :: keys) target := by
  obtain ⟨howns, bucket, hbucket, hlook⟩ := (mem_shortBucket h).mp hmem
  exact .short howns hbucket hlook hrest

theorem reached_long {name : Text} {below : Assoc Json} (hmem : (name, below) ∈ longBucket entries)
    {keys : List Text} (hrest : Reached below keys target) :
    Reached entries (membersKey :: name :: keys) target := by
  obtain ⟨howns, bucket, hbucket, hkind, hlook⟩ := (mem_longBucket h).mp hmem
  exact .long howns hbucket hkind hlook hrest

/-- How a position is reached: it is the node itself, it is reached through a nested declaration or a
member of one of the buckets, or it is the bucket under the long key, which is no node of its own. -/
theorem reached_cases {keys : List Text} (hreach : Reached entries keys target) :
    (keys = [] ∧ target = entries) ∨
    (∃ key below rest, isWalkable entries = true ∧ (key, below) ∈ nested entries ∧
      keys = key :: rest ∧ Reached below rest target) ∨
    (∃ name below rest, (name, below) ∈ shortBucket entries ∧
      keys = bucketKey :: name :: rest ∧ Reached below rest target) ∨
    (∃ name below rest, (name, below) ∈ longBucket entries ∧
      keys = membersKey :: name :: rest ∧ Reached below rest target) ∨
    (keys = [membersKey] ∧ ownsMembers entries = true ∧
      Assoc.lookup membersKey entries = some (.obj target) ∧ Assoc.hasKey kindKey target = false) := by
  cases hreach with
  | root => exact .inl ⟨rfl, rfl⟩
  | @child _ below _ key keys hwalk hkey hbelow hrest =>
    by_cases hbucket : ownsMembers entries = true ∧ key = membersKey ∧ Assoc.hasKey kindKey below = false
    · -- What is nested under the long key is its bucket, so the next step leads to a member.
      obtain ⟨howns, rfl, hkind⟩ := hbucket
      obtain ⟨_, hnone⟩ := ownsMembers_of_kindless hkind
      cases hrest with
      | root => exact .inr (.inr (.inr (.inr ⟨rfl, howns, hbelow, hkind⟩)))
      | @child _ inner _ name rest _ _ hinner hrest =>
        have hmem := (mem_longBucket h).mpr ⟨howns, below, hbelow, hkind, hinner⟩
        exact .inr (.inr (.inr (.inl ⟨name, inner, rest, hmem, rfl, hrest⟩)))
      | short howns' => simp [hnone] at howns'
      | long howns' => simp [hnone] at howns'
    · have hmem := mem_nested.mpr ⟨Assoc.mem_of_lookup hbelow, hkey, hbucket⟩
      exact .inr (.inl ⟨key, below, keys, hwalk, hmem, rfl, hrest⟩)
  | @short _ bucket below _ name keys howns hbucket hbelow hrest =>
    have hmem := (mem_shortBucket h).mpr ⟨howns, bucket, hbucket, hbelow⟩
    exact .inr (.inr (.inl ⟨name, below, keys, hmem, rfl, hrest⟩))
  | @long _ bucket below _ name keys howns hbucket hkind hbelow hrest =>
    have hmem := (mem_longBucket h).mpr ⟨howns, bucket, hbucket, hkind, hbelow⟩
    exact .inr (.inr (.inr (.inl ⟨name, below, keys, hmem, rfl, hrest⟩)))

/-- Where something is nested under the long key, there is no bucket under it. -/
theorem not_mem_longBucket_of_nested {below : Assoc Json} (hmem : (membersKey, below) ∈ nested entries)
    {name : Text} {inner : Assoc Json} (hlong : (name, inner) ∈ longBucket entries) : False := by
  obtain ⟨hin, _, hnot⟩ := mem_nested.mp hmem
  obtain ⟨howns, bucket, hbucket, hkind, _⟩ := (mem_longBucket h).mp hlong
  obtain rfl := Json.obj.inj (Assoc.eq_of_mem h.nodup hin (Assoc.mem_of_lookup hbucket))
  exact hnot ⟨howns, rfl, hkind⟩

theorem not_reached_bucket {bucket : Assoc Json} : ¬Reached entries [bucketKey] bucket := by
  intro hreach
  rcases reached_cases h hreach with ⟨hkeys, _⟩ | ⟨key, below, rest, _, hmem, hkeys, _⟩ |
    ⟨_, _, _, _, hkeys, _⟩ | ⟨_, _, _, _, hkeys, _⟩ | ⟨hkeys, _⟩
  · cases hkeys
  · exact nested_ne_bucketKey hmem (List.cons.inj hkeys).1.symm
  · cases hkeys
  · cases hkeys
  · exact membersKey_ne_bucketKey (List.cons.inj hkeys).1.symm

theorem not_owns_of_reached_members {name : Text} {below bucket : Assoc Json}
    (hmem : (name, below) ∈ longBucket entries) (hreach : Reached entries [membersKey] bucket) :
    ownsMembers bucket = false := by
  rcases reached_cases h hreach with ⟨hkeys, _⟩ | ⟨key, _, _, _, hnested, hkeys, _⟩ |
    ⟨_, _, _, _, hkeys, _⟩ | ⟨_, _, _, _, hkeys, _⟩ | ⟨_, _, _, hkind⟩
  · cases hkeys
  · rw [← (List.cons.inj hkeys).1] at hnested
    exact (not_mem_longBucket_of_nested h hnested hmem).elim
  · cases hkeys
  · cases hkeys
  · exact (ownsMembers_of_kindless hkind).2

theorem reached_below_nested {key : Text} {below : Assoc Json} (hmem : (key, below) ∈ nested entries)
    {rest : List Text} (hreach : Reached entries (key :: rest) target) : Reached below rest target := by
  rcases reached_cases h hreach with ⟨hkeys, _⟩ | ⟨key', below', rest', _, hmem', hkeys, hrest⟩ |
    ⟨_, _, _, _, hkeys, _⟩ | ⟨name, inner, _, hlong, hkeys, _⟩ | ⟨hkeys, howns, hlook, hkind⟩
  · cases hkeys
  · obtain ⟨rfl, rfl⟩ := List.cons.inj hkeys
    rw [Assoc.eq_of_mem h.nodup_nested hmem hmem']
    exact hrest
  · exact absurd (List.cons.inj hkeys).1 (nested_ne_bucketKey hmem)
  · rw [(List.cons.inj hkeys).1] at hmem
    exact (not_mem_longBucket_of_nested h hmem hlong).elim
  · obtain ⟨rfl, rfl⟩ := List.cons.inj hkeys
    obtain ⟨hin, _, hnot⟩ := mem_nested.mp hmem
    obtain rfl := Json.obj.inj (Assoc.eq_of_mem h.nodup hin (Assoc.mem_of_lookup hlook))
    exact absurd ⟨howns, rfl, hkind⟩ hnot

theorem reached_below_short {name : Text} {below : Assoc Json}
    (hmem : (name, below) ∈ shortBucket entries) {rest : List Text}
    (hreach : Reached entries (bucketKey :: name :: rest) target) : Reached below rest target := by
  rcases reached_cases h hreach with ⟨hkeys, _⟩ | ⟨key, _, _, _, hnested, hkeys, _⟩ |
    ⟨name', below', rest', hmem', hkeys, hrest⟩ | ⟨_, _, _, _, hkeys, _⟩ | ⟨hkeys, _⟩
  · cases hkeys
  · exact absurd (List.cons.inj hkeys).1.symm (nested_ne_bucketKey hnested)
  · obtain ⟨rfl, rfl⟩ := List.cons.inj (List.cons.inj hkeys).2
    rw [Assoc.eq_of_mem h.nodup_shortBucket hmem hmem']
    exact hrest
  · exact absurd (List.cons.inj hkeys).1.symm membersKey_ne_bucketKey
  · cases (List.cons.inj hkeys).2

theorem reached_below_long {name : Text} {below : Assoc Json}
    (hmem : (name, below) ∈ longBucket entries) {rest : List Text}
    (hreach : Reached entries (membersKey :: name :: rest) target) : Reached below rest target := by
  rcases reached_cases h hreach with ⟨hkeys, _⟩ | ⟨key, _, _, _, hnested, hkeys, _⟩ |
    ⟨_, _, _, _, hkeys, _⟩ | ⟨name', below', rest', hmem', hkeys, hrest⟩ | ⟨hkeys, _⟩
  · cases hkeys
  · rw [← (List.cons.inj hkeys).1] at hnested
    exact (not_mem_longBucket_of_nested h hnested hmem).elim
  · exact absurd (List.cons.inj hkeys).1 membersKey_ne_bucketKey
  · obtain ⟨rfl, rfl⟩ := List.cons.inj (List.cons.inj hkeys).2
    rw [Assoc.eq_of_mem h.nodup_longBucket hmem hmem']
    exact hrest
  · cases (List.cons.inj hkeys).2

/-! ## Overwritten positions -/

theorem overwritten_nested (hwalk : isWalkable entries = true) {key : Text} {below : Assoc Json}
    (hmem : (key, below) ∈ nested entries) (rest : List Text) :
    Overwritten entries (key :: rest) ↔ Overwritten below rest := by
  constructor
  · rintro ⟨above, node, name, after, hreach, hshort, hlong, hkeys⟩
    cases above with
    | nil => exact absurd (List.cons.inj hkeys).1 (nested_ne_bucketKey hmem)
    | cons first above =>
      obtain ⟨rfl, hrest⟩ := List.cons.inj hkeys
      exact ⟨above, node, name, after, reached_below_nested h hmem hreach, hshort, hlong, hrest⟩
  · rintro ⟨above, node, name, after, hreach, hshort, hlong, hkeys⟩
    refine ⟨key :: above, node, name, after, reached_nested h hwalk hmem hreach, hshort, hlong, ?_⟩
    rw [hkeys]
    rfl

theorem overwritten_short {name : Text} {below : Assoc Json}
    (hmem : (name, below) ∈ shortBucket entries) (rest : List Text) :
    Overwritten entries (bucketKey :: name :: rest) ↔
      name ∈ (longBucket entries).map Prod.fst ∨ Overwritten below rest := by
  constructor
  · rintro ⟨above, node, name', after, hreach, hshort, hlong, hkeys⟩
    match above, hreach, hkeys with
    | [], hreach, hkeys =>
      obtain rfl := eq_of_reached_nil hreach
      obtain ⟨rfl, _⟩ := List.cons.inj (List.cons.inj hkeys).2
      exact .inl hlong
    | [first], hreach, hkeys =>
      obtain ⟨rfl, _⟩ := List.cons.inj hkeys
      exact (not_reached_bucket h hreach).elim
    | first :: second :: above, hreach, hkeys =>
      simp only [List.cons_append, List.cons.injEq] at hkeys
      obtain ⟨rfl, rfl, hrest⟩ := hkeys
      exact .inr ⟨above, node, name', after, reached_below_short h hmem hreach, hshort, hlong, hrest⟩
  · rintro (hlong | ⟨above, node, name', after, hreach, hshort, hlong, hkeys⟩)
    · have hshort : name ∈ (shortBucket entries).map Prod.fst := List.mem_map.mpr ⟨_, hmem, rfl⟩
      exact ⟨[], entries, name, rest, .root entries, hshort, hlong, rfl⟩
    · refine ⟨bucketKey :: name :: above, node, name', after, reached_short h hmem hreach, hshort,
        hlong, ?_⟩
      rw [hkeys]
      rfl

theorem overwritten_long {name : Text} {below : Assoc Json} (hmem : (name, below) ∈ longBucket entries)
    (rest : List Text) :
    Overwritten entries (membersKey :: name :: rest) ↔ Overwritten below rest := by
  constructor
  · rintro ⟨above, node, name', after, hreach, hshort, hlong, hkeys⟩
    match above, hreach, hkeys with
    | [], hreach, hkeys => exact absurd (List.cons.inj hkeys).1 membersKey_ne_bucketKey
    | [first], hreach, hkeys =>
      -- The bucket under the long key is no class and no interface, so it has no bucket of its own.
      obtain ⟨rfl, _⟩ := List.cons.inj hkeys
      rw [shortBucket_of_not_owns (not_owns_of_reached_members h hmem hreach)] at hshort
      cases hshort
    | first :: second :: above, hreach, hkeys =>
      simp only [List.cons_append, List.cons.injEq] at hkeys
      obtain ⟨rfl, rfl, hrest⟩ := hkeys
      exact ⟨above, node, name', after, reached_below_long h hmem hreach, hshort, hlong, hrest⟩
  · rintro ⟨above, node, name', after, hreach, hshort, hlong, hkeys⟩
    refine ⟨membersKey :: name :: above, node, name', after, reached_long h hmem hreach, hshort,
      hlong, ?_⟩
    rw [hkeys]
    rfl

end Steps

end Externs.Json
