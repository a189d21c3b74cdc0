import Externs.Proofs.Cutting
import Externs.Proofs.Files

/-!
# Paths as they are shown

A path and the way it is shown lead to the same place.

* `PathName.splitAt_shown`: the pieces of a shown path are the steps, after empty ones at a root;
* `PathName.names_shown`, `FileTree.startOf_shown`: the names and the start of a shown path;
* `FileTree.leads_shown`: where a file can be written, the path as shown leads to it.
-/

namespace Externs

set_option autoImplicit false

/-! ## Shown paths -/

namespace PathName

theorem of_mem_steps {path step : Text} (h : step ∈ steps path) :
    separator ∉ step ∧ step ≠ [] ∧ step ≠ here := by
  obtain ⟨hmem, hkept⟩ := List.mem_filter.mp h
  exact ⟨Text.not_mem_of_mem_splitAt hmem, by simpa using hkept⟩

theorem shown_eq {path : Text} (h : steps path ≠ []) :
    shown path = rootMark path ++ Text.joinWith [separator] (steps path) := by
  rw [shown]
  split
  · next hnil => exact absurd hnil h
  · rfl

/-- The mark of the root is made of separators, and there is one just if the path starts with one. -/
theorem rootMark_eq (path : Text) :
    ∃ count, rootMark path = List.replicate count separator ∧
      (0 < count ↔ path.head? = some separator) := by
  have hpos : 0 < (path.takeWhile (· = separator)).length ↔ path.head? = some separator := by
    cases path with
    | nil => simp
    | cons p rest => by_cases hp : p = separator <;> simp [hp]
  rw [rootMark, ← hpos]
  split
  · next hlength => exact ⟨0, rfl, by rw [hlength]⟩
  · next hlength => exact ⟨2, rfl, by simp [hlength]⟩
  · next hzero _ => exact ⟨1, rfl, by simp [Nat.pos_of_ne_zero hzero]⟩

/-- The pieces of a shown path are the steps, after empty pieces if it starts at a root. -/
theorem splitAt_shown {path : Text} (h : steps path ≠ []) :
    ∃ count, (shown path).splitAt separator = List.replicate count [] ++ steps path := by
  obtain ⟨count, hmark, _⟩ := rootMark_eq path
  have hsteps := Text.splitAt_joinWith h fun step hstep => (of_mem_steps hstep).1
  refine ⟨count, ?_⟩
  rw [shown_eq h, hmark, Text.splitAt_replicate_append, hsteps]

theorem steps_shown {path : Text} (h : steps path ≠ []) : steps (shown path) = steps path := by
  obtain ⟨count, hsplit⟩ := splitAt_shown h
  have hempty : (List.replicate count ([] : Text)).filter (fun step => !step.isEmpty && step != here) = [] := by
    rw [List.filter_eq_nil_iff]
    intro step hstep
    rw [List.eq_of_mem_replicate hstep]
    simp
  have hkept : (steps path).filter (fun step => !step.isEmpty && step != here) = steps path := by
    rw [List.filter_eq_self]
    intro step hstep
    simpa using (of_mem_steps hstep).2
  rw [steps, hsplit, List.filter_append, hempty, hkept, List.nil_append]

theorem names_shown {path : Text} (h : steps path ≠ []) : names (shown path) = names path := by
  rw [names, steps_shown h, names]

theorem wantsDirectory_shown {path : Text} (h : steps path ≠ []) : wantsDirectory (shown path) = false := by
  obtain ⟨count, hsplit⟩ := splitAt_shown h
  have hlast : ((shown path).splitAt separator).getLast? = some ((steps path).getLast h) := by
    rw [hsplit, List.getLast?_append_of_ne_nil _ h, List.getLast?_eq_some_getLast h]
  obtain ⟨_, hne, hhere⟩ := of_mem_steps (List.getLast_mem h)
  rw [wantsDirectory, hlast]
  simp [hne, hhere]

end PathName

namespace FileTree

theorem startOf_shown {path : Text} (h : PathName.steps path ≠ []) :
    startOf (PathName.shown path) = startOf path := by
  obtain ⟨count, hmark, hroot⟩ := PathName.rootMark_eq path
  have hhead : (PathName.shown path).head? = some PathName.separator ↔
      path.head? = some PathName.separator := by
    rw [PathName.shown_eq h, hmark, ← hroot]
    cases count with
    | succ count => simp [List.replicate_succ]
    | zero =>
      -- Without a root, the path as shown starts with its first step.
      cases hsteps : PathName.steps path with
      | nil => exact absurd hsteps h
      | cons step rest =>
        have hstep : step ∈ PathName.steps path := hsteps ▸ List.mem_cons_self
        obtain ⟨hmem, hne, _⟩ := PathName.of_mem_steps hstep
        cases step with
        | nil => exact absurd rfl hne
        | cons p more =>
          have hp : p ≠ PathName.separator := (List.ne_of_not_mem_cons hmem).symm
          cases rest <;> simp [Text.joinWith, hp]
  rw [startOf, startOf]
  simp only [hhead]

/-- Where a file can be written, the path as shown leads to it, if the path has steps at all. -/
theorem leads_shown {tree : FileTree} {path : Text} {place : FilePlace}
    (hsteps : PathName.steps path ≠ []) (h : tree.placeToWrite path = .ok place) :
    tree.Leads (PathName.shown path) place := by
  obtain ⟨hsize, hfollow, _⟩ := (placeToWrite_eq_ok_iff tree path place).mp h
  have hne : PathName.shown path ≠ [] := by
    intro hnil
    have hshown := PathName.steps_shown hsteps
    rw [hnil] at hshown
    exact hsteps hshown.symm
  refine ⟨hne, hsize, PathName.wantsDirectory_shown hsteps, ?_⟩
  rw [startOf_shown hsteps, PathName.names_shown hsteps]
  exact hfollow

end FileTree

end Externs
