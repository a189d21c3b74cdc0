import Externs.Command.FileTree
import Mathlib.Data.List.Basic

/-!
# Writing a file

Writing the file at a place to which a path leads changes what stands there and nothing else.

* `FileTree.Grounded`: the directories above a place exist;
* `FileTree.grounded_follow`: they do for every place to which steps lead;
* `FileTree.entryAt?_set_of_ne`: so an entry set there changes no other place;
* `FileTree.Admits`: the places where a file may be written;
* `FileTree.Leads`: the places at which paths find files;
* `FileTree.WrittenAt`, `FileTree.writtenAt_write`: what each place and each path has after a file was written.
-/

namespace Externs.FileTree

set_option autoImplicit false

/-! ## Directories above a place -/

/-- A directory stands at a place. -/
def IsDirectory (tree : FileTree) (place : FilePlace) : Prop :=
  ∃ access, tree.entryAt? place = some (.directory access)

/-- Something stands at each place above this one. -/
def Grounded (tree : FileTree) (place : FilePlace) : Prop :=
  ∀ names, names <+: place.names → names ≠ place.names →
    (tree.entryAt? ⟨place.rooted, names⟩).isSome = true

theorem grounded_start (tree : FileTree) (path : Text) : Grounded tree (startOf path) := by
  intro names habove hne
  exact absurd (List.prefix_nil.mp habove) hne

theorem grounded_step {tree : FileTree} {place : FilePlace} (hground : Grounded tree place)
    (hdir : tree.IsDirectory place) (name : FileName) :
    Grounded tree (step place name) := by
  have hdown : Grounded tree { place with names := place.names ++ [name] } := by
    intro names habove hne
    rcases List.prefix_concat_iff.mp habove with heq | habove
    · exact absurd heq hne
    · by_cases hself : names = place.names
      · obtain ⟨access, hentry⟩ := hdir
        rw [hself]
        exact hentry ▸ rfl
      · exact hground names habove hself
  have hup : Grounded tree { place with names := place.names.dropLast } := by
    intro names habove hne
    -- What lies above the directory above also lies above the place itself.
    refine hground names (habove.trans (List.dropLast_prefix _)) ?_
    rintro rfl
    have hlength := habove.length_le
    rw [List.length_dropLast] at hlength
    have hnil : place.names = [] := List.eq_nil_of_length_eq_zero (by omega)
    rw [hnil] at hne
    exact hne rfl
  rw [step]
  split
  · split
    · split
      · exact hground
      · exact hdown
    · exact hup
  · exact hdown

/-- Steps lead to places above which all exists. -/
theorem grounded_follow {tree : FileTree} {place target : FilePlace} {names : List FileName}
    (hground : Grounded tree place) (h : tree.follow place names = .ok target) :
    Grounded tree target := by
  induction names generalizing place with
  | nil =>
    cases h
    exact hground
  | cons name rest ih =>
    rw [follow] at h
    split at h
    · next access hdir =>
      split at h
      · cases h
      · split at h
        · cases h
        · exact ih (grounded_step hground ⟨access, hdir⟩ name) h
    · cases h
    · cases h

/-! ## An entry set anew -/

/-- Something stands at a place: it is a start, or an entry is there or below it. -/
def Stands (tree : FileTree) (place : FilePlace) : Prop :=
  isStart place = true ∨
    ∃ entry ∈ tree.entries, entry.1.rooted = place.rooted ∧ place.names <+: entry.1.names

instance (tree : FileTree) (place : FilePlace) : Decidable (Stands tree place) :=
  inferInstanceAs (Decidable (_ ∨ _))

theorem entryAt?_eq (tree : FileTree) (place : FilePlace) :
    tree.entryAt? place =
      (tree.entries.lookup place).or (if Stands tree place then some (.directory {}) else none) := by
  rw [entryAt?]
  cases tree.entries.lookup place with
  | some entry => rfl
  | none =>
    have hstands : (isStart place || tree.entries.any fun entry =>
        entry.1.rooted = place.rooted && place.names.isPrefixOf entry.1.names) = true ↔
          Stands tree place := by
      simp only [Stands, Bool.or_eq_true, List.any_eq_true, Bool.and_eq_true, decide_eq_true_eq,
        List.isPrefixOf_iff_prefix]
    exact if_congr hstands rfl rfl

theorem stands_of_lookup {tree : FileTree} {place : FilePlace} {entry : FileEntry}
    (h : tree.entries.lookup place = some entry) : Stands tree place := by
  obtain ⟨before, after, heq, _⟩ := List.lookup_eq_some_iff.mp h
  refine .inr ⟨(place, entry), ?_, rfl, List.prefix_refl _⟩
  rw [heq]
  exact List.mem_append_right _ List.mem_cons_self

theorem isSome_entryAt? (tree : FileTree) (place : FilePlace) :
    (tree.entryAt? place).isSome = true ↔ Stands tree place := by
  rw [entryAt?_eq]
  cases h : tree.entries.lookup place with
  | some entry => simp [stands_of_lookup h]
  | none => by_cases hstands : Stands tree place <;> simp [hstands]

theorem lookup_set_of_ne {tree : FileTree} {place other : FilePlace} (hne : other ≠ place)
    (entry : FileEntry) : (tree.set place entry).entries.lookup other = tree.entries.lookup other := by
  have hother : (other == place) = false := by simpa using hne
  have hfilter (entries : List (FilePlace × FileEntry)) :
      (entries.filter fun entry => entry.1 != place).lookup other = entries.lookup other := by
    induction entries with
    | nil => rfl
    | cons head rest ih =>
      obtain ⟨key, value⟩ := head
      by_cases hkey : key = place
      · simp [hkey, List.lookup_cons, ih, hother]
      · simp [hkey, List.lookup_cons, ih]
  rw [set, List.lookup_cons, hother]
  exact hfilter tree.entries

theorem stands_set_of_ne {tree : FileTree} {place other : FilePlace} (hground : Grounded tree place)
    (hne : other ≠ place) (entry : FileEntry) : Stands (tree.set place entry) other ↔ Stands tree other := by
  constructor
  · rintro (hstart | ⟨found, hmem, hroot, habove⟩)
    · exact .inl hstart
    · rcases List.mem_cons.mp hmem with rfl | hmem
      · -- What lies above the place was there before.
        obtain ⟨rooted, names⟩ := other
        obtain rfl : place.rooted = rooted := hroot
        refine (isSome_entryAt? tree _).mp (hground names habove ?_)
        rintro rfl
        exact hne rfl
      · exact .inr ⟨found, List.mem_of_mem_filter hmem, hroot, habove⟩
  · rintro (hstart | ⟨found, hmem, hroot, habove⟩)
    · exact .inl hstart
    · by_cases hkey : found.1 = place
      · exact .inr ⟨(place, entry), List.mem_cons_self, hkey ▸ hroot, hkey ▸ habove⟩
      · have hkept : found ∈ tree.entries.filter fun entry => entry.1 != place :=
          List.mem_filter.mpr ⟨hmem, by simpa using hkey⟩
        exact .inr ⟨found, List.mem_cons_of_mem _ hkept, hroot, habove⟩

theorem entryAt?_set_self (tree : FileTree) (place : FilePlace) (entry : FileEntry) :
    (tree.set place entry).entryAt? place = some entry := by
  simp [entryAt?, set]

/-- **An entry set anew** changes what stands at its place and at no other. -/
theorem entryAt?_set_of_ne {tree : FileTree} {place other : FilePlace} (hground : Grounded tree place)
    (hne : other ≠ place) (entry : FileEntry) :
    (tree.set place entry).entryAt? other = tree.entryAt? other := by
  rw [entryAt?_eq, entryAt?_eq, lookup_set_of_ne hne]
  simp only [stands_set_of_ne hground hne]

/-! ## Places to write -/

/-- A file may be written at a place: one is there and can be written to, or nothing is there and the
directory above takes new files. -/
def Admits (tree : FileTree) (place : FilePlace) : Prop :=
  (∃ access bytes, tree.entryAt? place = some (.file access bytes) ∧ access.write = true) ∨
    (tree.entryAt? place = none ∧
      ∃ access, tree.entryAt? (above place) = some (.directory access) ∧ access.write = true)

theorem Admits.not_isDirectory {tree : FileTree} {place : FilePlace} (h : tree.Admits place) :
    ¬tree.IsDirectory place := by
  rintro ⟨access, hdir⟩
  rcases h with ⟨_, _, hfile, _⟩ | ⟨hnone, _⟩
  · rw [hdir] at hfile
    cases hfile
  · rw [hdir] at hnone
    cases hnone

theorem canMakeIn_iff (tree : FileTree) (place : FilePlace) :
    tree.canMakeIn place = true ↔
      ∃ access, tree.entryAt? place = some (.directory access) ∧ access.write = true := by
  rw [canMakeIn]
  cases tree.entryAt? place with
  | none => simp
  | some entry => cases entry <;> simp

theorem placeToWrite_eq_ok_iff (tree : FileTree) (path : Text) (place : FilePlace) :
    tree.placeToWrite path = .ok place ↔
      PathName.size (PathName.shown path) ≤ PathName.pathLimit ∧
        tree.follow (startOf path) (PathName.names path) = .ok place ∧ tree.Admits place := by
  rw [placeToWrite]
  by_cases hsize : PathName.pathLimit < PathName.size (PathName.shown path)
  · simp [hsize, Nat.not_le.mpr hsize]
  · rw [if_neg hsize]
    cases tree.follow (startOf path) (PathName.names path) with
    | error problem => simp
    | ok target =>
      simp only [Except.ok.injEq, Nat.not_lt.mp hsize, true_and]
      constructor
      · intro h
        split at h
        · cases h
        · next access bytes hentry =>
          split at h
          · next hwrite =>
            cases h
            exact ⟨rfl, .inl ⟨access, bytes, hentry, hwrite⟩⟩
          · cases h
        · next hentry =>
          split at h
          · next hmake =>
            cases h
            exact ⟨rfl, .inr ⟨hentry, (canMakeIn_iff _ _).mp hmake⟩⟩
          · cases h
      · rintro ⟨rfl, ⟨access, bytes, hentry, hwrite⟩ | ⟨hentry, hmake⟩⟩
        · simp [hentry, hwrite]
        · simp [hentry, (canMakeIn_iff _ _).mpr hmake]

theorem grounded_of_placeToWrite {tree : FileTree} {path : Text} {place : FilePlace}
    (h : tree.placeToWrite path = .ok place) : Grounded tree place :=
  grounded_follow (grounded_start tree path) ((placeToWrite_eq_ok_iff tree path place).mp h).2.1

theorem not_isDirectory_of_placeToWrite {tree : FileTree} {path : Text} {place : FilePlace}
    (h : tree.placeToWrite path = .ok place) : ¬tree.IsDirectory place :=
  ((placeToWrite_eq_ok_iff tree path place).mp h).2.2.not_isDirectory

/-! ## Contents -/

/-- A path leads to a place where its file would be found: it is neither empty nor too long, its end
does not ask for a directory, and its steps lead there. -/
def Leads (tree : FileTree) (path : Text) (place : FilePlace) : Prop :=
  path ≠ [] ∧ PathName.size path ≤ PathName.pathLimit ∧ PathName.wantsDirectory path = false ∧
    tree.follow (startOf path) (PathName.names path) = .ok place

theorem contentAt_eq_some_iff (tree : FileTree) (path : Text) (bytes : List UInt8) :
    tree.contentAt path = some bytes ↔
      ∃ place access, tree.Leads path place ∧ tree.entryAt? place = some (.file access bytes) := by
  have hreadable : ¬(path.isEmpty || decide (PathName.pathLimit < PathName.size path)) = true ↔
      path ≠ [] ∧ PathName.size path ≤ PathName.pathLimit := by simp
  constructor
  · intro h
    by_cases hpath : (path.isEmpty || decide (PathName.pathLimit < PathName.size path)) = true
    · rw [contentAt, find, if_pos hpath] at h
      cases h
    · obtain ⟨hempty, hsize⟩ := hreadable.mp hpath
      rw [contentAt, find, if_neg hpath] at h
      cases hfollow : tree.follow (startOf path) (PathName.names path) with
      | error problem => simp [hfollow] at h
      | ok place =>
        cases hentry : tree.entryAt? place with
        | none => simp [hfollow, hentry] at h
        | some entry =>
          cases entry with
          | directory access =>
            simp only [hfollow, hentry] at h
            split at h
            · next hfound =>
              split at hfound <;> cases hfound
            · cases h
          | file access old =>
            cases hwants : PathName.wantsDirectory path with
            | true => simp [hfollow, hentry, hwants] at h
            | false =>
              obtain rfl : old = bytes := by simpa [hfollow, hentry, hwants] using h
              exact ⟨place, access, ⟨hempty, hsize, hwants, hfollow⟩, hentry⟩
  · rintro ⟨place, access, ⟨hempty, hsize, hwants, hfollow⟩, hentry⟩
    rw [contentAt, find, if_neg (hreadable.mpr ⟨hempty, hsize⟩), hfollow]
    simp only [hentry, hwants]
    rfl

section

variable {tree : FileTree} {place : FilePlace} (hground : Grounded tree place)
  (hfile : ¬tree.IsDirectory place) (bytes : List UInt8)
include hground hfile

/-- Steps lead to the same places when a file is written where no directory stands. -/
theorem follow_write (start target : FilePlace) (names : List FileName) :
    (tree.write place bytes).follow start names = .ok target ↔ tree.follow start names = .ok target := by
  induction names generalizing start with
  | nil => exact Iff.rfl
  | cons name rest ih =>
    by_cases hstart : start = place
    · -- The steps end here: before and after, this place is no directory.
      subst hstart
      rw [follow, follow, write, entryAt?_set_self]
      cases hentry : tree.entryAt? start with
      | none => simp
      | some entry =>
        cases entry with
        | directory access => exact absurd ⟨access, hentry⟩ hfile
        | file access old => simp
    · rw [follow, follow, write, entryAt?_set_of_ne hground hstart]
      split
      · split
        · exact Iff.rfl
        · split
          · exact Iff.rfl
          · exact ih (step start name)
      · exact Iff.rfl
      · exact Iff.rfl

theorem leads_write (path : Text) (target : FilePlace) :
    (tree.write place bytes).Leads path target ↔ tree.Leads path target := by
  rw [Leads, Leads, follow_write hground hfile]

/-- The content of a path that leads to the place of the file. -/
theorem contentAt_write_of_leads {path : Text} (h : tree.Leads path place) :
    (tree.write place bytes).contentAt path = some bytes :=
  (contentAt_eq_some_iff _ _ _).mpr
    ⟨place, _, (leads_write hground hfile bytes path place).mpr h, entryAt?_set_self tree place _⟩

/-- The content of any other path. -/
theorem contentAt_write_of_not_leads {path : Text} (h : ¬tree.Leads path place) :
    (tree.write place bytes).contentAt path = tree.contentAt path := by
  apply Option.ext
  intro content
  rw [contentAt_eq_some_iff, contentAt_eq_some_iff]
  refine exists_congr fun target => exists_congr fun access => ?_
  rw [leads_write hground hfile]
  refine and_congr_right fun hleads => ?_
  have hne : target ≠ place := by
    rintro rfl
    exact h hleads
  rw [write, entryAt?_set_of_ne hground hne]

end

/-- The files after one of them was written: a file with these bytes stands at the place, everything may be done
with it that could be done before, and nothing else has changed. -/
structure WrittenAt (before : FileTree) (place : FilePlace) (bytes : List UInt8) (after : FileTree) : Prop where
  entry : after.entryAt? place = some (.file (before.accessAt place) bytes)
  otherEntry : ∀ other, other ≠ place → after.entryAt? other = before.entryAt? other
  content : ∀ path, before.Leads path place → after.contentAt path = some bytes
  otherContent : ∀ path, ¬before.Leads path place → after.contentAt path = before.contentAt path

theorem writtenAt_write {tree : FileTree} {path : Text} {place : FilePlace}
    (h : tree.placeToWrite path = .ok place) (bytes : List UInt8) :
    tree.WrittenAt place bytes (tree.write place bytes) where
  entry := entryAt?_set_self tree place _
  otherEntry _ hne := entryAt?_set_of_ne (grounded_of_placeToWrite h) hne _
  content _ :=
    contentAt_write_of_leads (grounded_of_placeToWrite h) (not_isDirectory_of_placeToWrite h) bytes
  otherContent _ :=
    contentAt_write_of_not_leads (grounded_of_placeToWrite h) (not_isDirectory_of_placeToWrite h) bytes

end Externs.FileTree
