import Externs.Text.CodePoint

/-!
# Ordered associations

Mappings keep their entries in the order in which their keys first came. A key that comes again keeps
its place and takes the later value.

* `Assoc`: entries in order;
* `Assoc.lookup`: the value of a key;
* `Assoc.insert`: the entry of a key, set anew;
* `Assoc.merge`: many entries, set anew.
-/

namespace Externs

set_option autoImplicit false

/-- Entries in order, each a key with its value. -/
abbrev Assoc (α : Type) := List (Text × α)

namespace Assoc

variable {α : Type}

/-- The value of the first entry with the key. -/
def lookup (key : Text) : Assoc α → Option α
  | [] => none
  | (k, v) :: rest => if k = key then some v else lookup key rest

theorem mem_of_lookup {key : Text} {value : α} {entries : Assoc α}
    (h : lookup key entries = some value) : (key, value) ∈ entries := by
  induction entries with
  | nil => simp [lookup] at h
  | cons entry rest ih =>
    obtain ⟨k, v⟩ := entry
    rw [lookup] at h
    split at h
    · next hk =>
      have hv : v = value := Option.some.inj h
      rw [hk, hv]
      exact List.mem_cons_self
    · exact List.mem_cons_of_mem _ (ih h)

/-- Whether some entry has the key. -/
def hasKey (key : Text) (entries : Assoc α) : Bool := (lookup key entries).isSome

/-- The entries with `value` under `key`: in the place of the old entry, or else at the end. -/
def insert (key : Text) (value : α) : Assoc α → Assoc α
  | [] => [(key, value)]
  | (k, v) :: rest => if k = key then (k, value) :: rest else (k, v) :: insert key value rest

theorem lookup_insert_self (key : Text) (value : α) (entries : Assoc α) :
    lookup key (insert key value entries) = some value := by
  induction entries with
  | nil => simp [insert, lookup]
  | cons entry rest ih =>
    obtain ⟨k, v⟩ := entry
    by_cases h : k = key
    · simp [insert, lookup, h]
    · simp [insert, lookup, h, ih]

theorem lookup_insert_of_ne {key other : Text} (h : other ≠ key) (value : α) (entries : Assoc α) :
    lookup other (insert key value entries) = lookup other entries := by
  induction entries with
  | nil => simp [insert, lookup, h.symm]
  | cons entry rest ih =>
    obtain ⟨k, v⟩ := entry
    by_cases hk : k = key
    · subst hk
      simp [insert, lookup, h.symm]
    · rw [insert, if_neg hk, lookup, lookup, ih]

/-- A key that is there keeps its place; a new one comes last. -/
theorem keys_insert (key : Text) (value : α) (entries : Assoc α) :
    (insert key value entries).map Prod.fst =
      if hasKey key entries then entries.map Prod.fst else entries.map Prod.fst ++ [key] := by
  induction entries with
  | nil => simp [insert, hasKey, lookup]
  | cons entry rest ih =>
    obtain ⟨k, v⟩ := entry
    by_cases h : k = key
    · simp [insert, hasKey, lookup, h]
    · have hrest : hasKey key ((k, v) :: rest) = hasKey key rest := by simp [hasKey, lookup, h]
      rw [insert, if_neg h, List.map_cons, ih, hrest]
      cases hasKey key rest <;> rfl

/-- The entries of `first` with those of `second` put in one after the other. -/
def merge (first second : Assoc α) : Assoc α :=
  second.foldl (fun entries (key, value) => insert key value entries) first

/-- The first entry with the key, changed by `f`. -/
def modify (key : Text) (f : α → α) : Assoc α → Assoc α
  | [] => []
  | (k, v) :: rest => if k = key then (k, f v) :: rest else (k, v) :: modify key f rest

end Assoc

end Externs
