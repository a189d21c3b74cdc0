import Externs.Assoc
import Mathlib.Data.List.Nodup

/-!
# Overlays

Two associations are merged by putting the entries of the second into the first, one after the other.
If the keys of each are different, the result can be said at once: the entries of the first in their
places, with the values of the second where it has any, and then the other entries of the second.

* `Assoc.overlay`: the second association laid over the first;
* `Assoc.merge_eq_overlay`: merging is an overlay;
* `Assoc.overlay_map`: a change of all values may come before or after;
* `Assoc.mem_overlay`: where the entries of an overlay come from.
-/

namespace Externs.Assoc

set_option autoImplicit false

variable {α β : Type}

/-- The entries of `first`, with the values of `second` under the keys that it has too, followed by
the other entries of `second`. -/
def overlay (first second : Assoc α) : Assoc α :=
  first.map (fun (key, value) => (key, (lookup key second).getD value)) ++
    second.filter fun (key, _) => !hasKey key first

/-! ## Keys -/

theorem hasKey_iff (key : Text) (entries : Assoc α) :
    hasKey key entries = true ↔ key ∈ entries.map Prod.fst := by
  induction entries with
  | nil => simp [hasKey, lookup]
  | cons entry rest ih =>
    obtain ⟨k, v⟩ := entry
    rw [hasKey] at ih ⊢
    by_cases h : k = key
    · simp [lookup, h]
    · simp [lookup, h, Ne.symm h, ih]

theorem lookup_eq_none_iff (key : Text) (entries : Assoc α) :
    lookup key entries = none ↔ key ∉ entries.map Prod.fst := by
  rw [← hasKey_iff, hasKey]
  cases lookup key entries <;> simp

theorem lookup_of_mem {key : Text} {value : α} {entries : Assoc α}
    (hkeys : (entries.map Prod.fst).Nodup) (h : (key, value) ∈ entries) :
    lookup key entries = some value := by
  induction entries with
  | nil => simp at h
  | cons entry rest ih =>
    obtain ⟨k, v⟩ := entry
    obtain ⟨hk, hrest⟩ := List.nodup_cons.mp hkeys
    rcases List.mem_cons.mp h with heq | hmem
    · obtain ⟨rfl, rfl⟩ := Prod.mk.inj heq
      simp [lookup]
    · have hne : k ≠ key := by
        rintro rfl
        exact hk (List.mem_map.mpr ⟨(k, value), hmem, rfl⟩)
      rw [lookup, if_neg hne]
      exact ih hrest hmem

theorem eq_of_mem {key : Text} {value other : α} {entries : Assoc α}
    (hkeys : (entries.map Prod.fst).Nodup) (h : (key, value) ∈ entries) (h' : (key, other) ∈ entries) :
    value = other := by
  have hlook := lookup_of_mem hkeys h
  rw [lookup_of_mem hkeys h'] at hlook
  exact (Option.some.inj hlook).symm

/-! ## One entry -/

theorem insert_of_not_mem {key : Text} (value : α) {entries : Assoc α}
    (h : key ∉ entries.map Prod.fst) : insert key value entries = entries ++ [(key, value)] := by
  induction entries with
  | nil => rfl
  | cons entry rest ih =>
    obtain ⟨k, v⟩ := entry
    obtain ⟨hk, hrest⟩ : key ≠ k ∧ key ∉ rest.map Prod.fst := by simpa using h
    rw [insert, if_neg (Ne.symm hk), ih hrest]
    rfl

theorem insert_of_mem {key : Text} (value : α) {entries : Assoc α}
    (hkeys : (entries.map Prod.fst).Nodup) (h : key ∈ entries.map Prod.fst) :
    insert key value entries = entries.map fun (k, v) => (k, if k = key then value else v) := by
  induction entries with
  | nil => simp at h
  | cons entry rest ih =>
    obtain ⟨k, v⟩ := entry
    obtain ⟨hk, hrest⟩ := List.nodup_cons.mp hkeys
    by_cases heq : k = key
    · subst heq
      have hsame : rest.map (fun (k', v) => (k', if k' = k then value else v)) = rest := by
        conv_rhs => rw [← List.map_id rest]
        apply List.map_congr_left
        rintro ⟨k', v'⟩ hmem
        have hne : k' ≠ k := by
          rintro rfl
          exact hk (List.mem_map.mpr ⟨(k', v'), hmem, rfl⟩)
        simp [hne]
      rw [insert, if_pos rfl, List.map_cons, hsame]
      simp
    · have hmem : key ∈ rest.map Prod.fst := by simpa [Ne.symm heq] using h
      rw [insert, if_neg heq, ih hrest hmem]
      simp [heq]

theorem nodup_keys_insert (key : Text) (value : α) {entries : Assoc α}
    (hkeys : (entries.map Prod.fst).Nodup) : ((insert key value entries).map Prod.fst).Nodup := by
  rw [keys_insert]
  split
  · exact hkeys
  · next h =>
    have hnot : key ∉ entries.map Prod.fst := fun hmem => h ((hasKey_iff key entries).mpr hmem)
    rw [List.nodup_append]
    refine ⟨hkeys, List.nodup_singleton key, ?_⟩
    intro k hk k' hk' heq
    rw [heq, List.mem_singleton.mp hk'] at hk
    exact hnot hk

/-! ## All entries -/

theorem hasKey_of_keys_eq {first : Assoc α} {second : Assoc β} (h : first.map Prod.fst = second.map Prod.fst)
    (key : Text) : hasKey key first = hasKey key second := by
  rw [Bool.eq_iff_iff, hasKey_iff, hasKey_iff, h]

theorem overlay_nil (first : Assoc α) : overlay first [] = first := by
  simp [overlay, lookup]

theorem nil_overlay (second : Assoc α) : overlay [] second = second := by
  simp [overlay, hasKey, lookup]

/-- An entry of the second association may be put into the first beforehand. -/
theorem overlay_insert {key : Text} (value : α) {first rest : Assoc α}
    (hfirst : (first.map Prod.fst).Nodup) (hrest : key ∉ rest.map Prod.fst) :
    overlay (insert key value first) rest = overlay first ((key, value) :: rest) := by
  have hnone := (lookup_eq_none_iff key rest).mpr hrest
  by_cases hmem : key ∈ first.map Prod.fst
  · have hhas := (hasKey_iff key first).mpr hmem
    have hkeys : (insert key value first).map Prod.fst = first.map Prod.fst := by
      rw [keys_insert, if_pos hhas]
    have hvalues : (insert key value first).map (fun (k, v) => (k, (lookup k rest).getD v)) =
        first.map fun (k, v) => (k, (lookup k ((key, value) :: rest)).getD v) := by
      rw [insert_of_mem value hfirst hmem, List.map_map]
      apply List.map_congr_left
      rintro ⟨k, v⟩ _
      by_cases hk : k = key
      · subst hk
        simp [lookup, hnone]
      · simp [lookup, hk, Ne.symm hk]
    simp only [overlay, hvalues, hasKey_of_keys_eq hkeys]
    rw [List.filter_cons_of_neg (by simp [hhas])]
  · have hhas : hasKey key first = false := by
      rw [← Bool.not_eq_true, hasKey_iff]
      exact hmem
    have hvalues : first.map (fun (k, v) => (k, (lookup k rest).getD v)) =
        first.map fun (k, v) => (k, (lookup k ((key, value) :: rest)).getD v) := by
      apply List.map_congr_left
      rintro ⟨k, v⟩ hin
      have hk : key ≠ k := by
        rintro rfl
        exact hmem (List.mem_map.mpr ⟨(key, v), hin, rfl⟩)
      simp [lookup, hk]
    have hfilter : rest.filter (fun (k, _) => !hasKey k (first ++ [(key, value)])) =
        rest.filter fun (k, _) => !hasKey k first := by
      apply List.filter_congr
      rintro ⟨k, v⟩ hin
      have hk : k ≠ key := by
        rintro rfl
        exact hrest (List.mem_map.mpr ⟨(k, v), hin, rfl⟩)
      have hsame : hasKey k (first ++ [(key, value)]) = hasKey k first := by
        rw [Bool.eq_iff_iff, hasKey_iff, hasKey_iff]
        simp [hk]
      simp only [hsame]
    rw [insert_of_not_mem value hmem, overlay, hfilter, List.map_append, hvalues, overlay,
      List.filter_cons_of_pos (by simp [hhas])]
    simp [hnone]

/-- **Merging is an overlay**, as long as the keys of either association are different. -/
theorem merge_eq_overlay {first second : Assoc α} (hfirst : (first.map Prod.fst).Nodup)
    (hsecond : (second.map Prod.fst).Nodup) : merge first second = overlay first second := by
  induction second generalizing first with
  | nil => rw [overlay_nil, merge, List.foldl_nil]
  | cons entry rest ih =>
    obtain ⟨key, value⟩ := entry
    obtain ⟨hkey, hrest⟩ := List.nodup_cons.mp hsecond
    have hmerge : merge first ((key, value) :: rest) = merge (insert key value first) rest := rfl
    rw [hmerge, ih (nodup_keys_insert key value hfirst) hrest, overlay_insert value hfirst hkey]

theorem lookup_map (f : α → β) (key : Text) (entries : Assoc α) :
    lookup key (entries.map fun (k, v) => (k, f v)) = (lookup key entries).map f := by
  induction entries with
  | nil => rfl
  | cons entry rest ih =>
    obtain ⟨k, v⟩ := entry
    by_cases h : k = key
    · simp [lookup, h]
    · simp [lookup, h, ih]

theorem overlay_map (f : α → β) (first second : Assoc α) :
    overlay (first.map fun (k, v) => (k, f v)) (second.map fun (k, v) => (k, f v)) =
      (overlay first second).map fun (k, v) => (k, f v) := by
  have hkeys : (first.map fun (k, v) => (k, f v)).map Prod.fst = first.map Prod.fst := by
    rw [List.map_map]
    rfl
  rw [overlay, overlay, List.map_append, List.filter_map, List.map_map, List.map_map]
  congr 1
  · apply List.map_congr_left
    rintro ⟨k, v⟩ _
    simp only [Function.comp_apply, lookup_map]
    cases lookup k second <;> rfl
  · congr 1
    apply List.filter_congr
    rintro ⟨k, v⟩ _
    simp only [Function.comp_apply, hasKey_of_keys_eq hkeys]

theorem nodup_keys_overlay {first second : Assoc α} (hfirst : (first.map Prod.fst).Nodup)
    (hsecond : (second.map Prod.fst).Nodup) : ((overlay first second).map Prod.fst).Nodup := by
  rw [overlay, List.map_append, List.map_map]
  apply List.Nodup.append hfirst (hsecond.sublist (List.filter_sublist.map _))
  rintro key hkey hother
  obtain ⟨⟨_, value⟩, hmem, rfl⟩ := List.mem_map.mp hother
  have hnot := (List.mem_filter.mp hmem).2
  have hhas := (hasKey_iff _ first).mpr hkey
  simp [hhas] at hnot

theorem mem_keys_overlay {first second : Assoc α} {key : Text} :
    key ∈ (overlay first second).map Prod.fst ↔ key ∈ first.map Prod.fst ∨ key ∈ second.map Prod.fst := by
  have hleft : (first.map fun (k, v) => (k, (lookup k second).getD v)).map Prod.fst = first.map Prod.fst := by
    rw [List.map_map]
    rfl
  rw [overlay, List.map_append, List.mem_append, hleft]
  constructor
  · rintro (hfirst | hrest)
    · exact .inl hfirst
    · exact .inr ((List.filter_sublist.map Prod.fst).subset hrest)
  · rintro (hfirst | hsecond)
    · exact .inl hfirst
    · by_cases hfirst : key ∈ first.map Prod.fst
      · exact .inl hfirst
      · obtain ⟨entry, hmem, rfl⟩ := List.mem_map.mp hsecond
        rw [← hasKey_iff] at hfirst
        exact .inr (List.mem_map.mpr ⟨entry, List.mem_filter.mpr ⟨hmem, by simpa using hfirst⟩, rfl⟩)

theorem of_mem_overlay {first second : Assoc α} {key : Text} {value : α}
    (h : (key, value) ∈ overlay first second) :
    (key, value) ∈ second ∨ ((key, value) ∈ first ∧ key ∉ second.map Prod.fst) := by
  rw [overlay, List.mem_append, List.mem_map, List.mem_filter] at h
  rcases h with ⟨⟨k, v⟩, hmem, heq⟩ | ⟨hmem, _⟩
  · obtain ⟨rfl, hvalue⟩ := Prod.mk.inj heq
    cases hlook : lookup k second with
    | none =>
      rw [hlook, Option.getD_none] at hvalue
      rw [hvalue] at hmem
      exact .inr ⟨hmem, (lookup_eq_none_iff k second).mp hlook⟩
    | some w =>
      rw [hlook, Option.getD_some] at hvalue
      rw [hvalue] at hlook
      exact .inl (mem_of_lookup hlook)
  · exact .inl hmem

/-- An entry of an overlay is one of the second association, or one of the first under a key that the
second does not have. -/
theorem mem_overlay {first second : Assoc α} (hsecond : (second.map Prod.fst).Nodup) {key : Text}
    {value : α} :
    (key, value) ∈ overlay first second ↔
      (key, value) ∈ second ∨ ((key, value) ∈ first ∧ key ∉ second.map Prod.fst) := by
  refine ⟨of_mem_overlay, ?_⟩
  rintro (hmem | ⟨hmem, hnot⟩)
  · by_cases hkey : key ∈ first.map Prod.fst
    · obtain ⟨⟨k, v⟩, hin, rfl⟩ := List.mem_map.mp hkey
      have hlook := lookup_of_mem hsecond hmem
      exact List.mem_append_left _ (List.mem_map.mpr ⟨(k, v), hin, by simp [hlook]⟩)
    · rw [← hasKey_iff, Bool.not_eq_true] at hkey
      exact List.mem_append_right _ (List.mem_filter.mpr ⟨hmem, by simp [hkey]⟩)
  · have hnone := (lookup_eq_none_iff key second).mpr hnot
    exact List.mem_append_left _ (List.mem_map.mpr ⟨(key, value), hmem, by simp [hnone]⟩)

/-! ## A change under a key -/

theorem lookup_modify_self (key : Text) (f : α → α) (entries : Assoc α) :
    lookup key (modify key f entries) = (lookup key entries).map f := by
  induction entries with
  | nil => rfl
  | cons entry rest ih =>
    obtain ⟨k, v⟩ := entry
    by_cases h : k = key
    · simp [modify, lookup, h]
    · simp [modify, lookup, h, ih]

/-- A change under a key leaves what stands before and after it. -/
theorem exists_split_of_lookup {key : Text} {value : α} {entries : Assoc α}
    (h : lookup key entries = some value) :
    ∃ before after, entries = before ++ (key, value) :: after ∧
      ∀ f, modify key f entries = before ++ (key, f value) :: after := by
  induction entries with
  | nil => cases h
  | cons entry rest ih =>
    obtain ⟨k, v⟩ := entry
    by_cases hk : k = key
    · have hv : v = value := by simpa [lookup, hk] using h
      exact ⟨[], rest, by simp [hk, hv], fun f => by simp [modify, hk, hv]⟩
    · have hlook : lookup key rest = some value := by simpa [lookup, hk] using h
      obtain ⟨before, after, hsplit, hmodify⟩ := ih hlook
      exact ⟨(k, v) :: before, after, by simp [hsplit], fun f => by simp [modify, hk, hmodify f]⟩

end Externs.Assoc
