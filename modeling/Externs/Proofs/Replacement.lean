import Externs.Proofs.Erasure

/-!
# One node in the place of another

A change somewhere in a tree is a change of one node, and the nodes above it differ only in what lies below them.
Their own parts are read alike, and so what is known of the changed node can be carried up to the root.

* `Node.PartsAlike`: two nodes whose own parts are read alike;
* `Node.DiffersAt`: two such nodes that differ in one node right below them;
* `Json.Within`: a change of one node, anywhere below a node;
* `Json.Within.carry`: what holds of the change itself, and is carried over one level, holds at the root;
* `Node.DiffersAt.ofEntries_eq`, `Node.DiffersAt.forall₂_steps`: the tree and the steps of a pass are carried over a
  level;
* `Json.editAt`, `Node.exists_focus`: two edits of a node of a pass are a change of one node.
-/

namespace Externs

set_option autoImplicit false

/-! ## One entry in the place of another -/

namespace Assoc

variable {α : Type}

theorem lookup_replace_of_ne {key other : Text} (h : other ≠ key) (before after : Assoc α)
    (value value' : α) :
    lookup other (before ++ (key, value) :: after) = lookup other (before ++ (key, value') :: after) := by
  induction before with
  | nil => simp [lookup, Ne.symm h]
  | cons entry rest ih =>
    obtain ⟨k, v⟩ := entry
    simp [lookup, ih]

theorem lookup_drop_of_ne {key other : Text} (h : other ≠ key) (before after : Assoc α) (value : α) :
    lookup other (before ++ (key, value) :: after) = lookup other (before ++ after) := by
  induction before with
  | nil => simp [lookup, Ne.symm h]
  | cons entry rest ih =>
    obtain ⟨k, v⟩ := entry
    simp [lookup, ih]

theorem keys_replace (before after : Assoc α) (key : Text) (value value' : α) :
    (before ++ (key, value) :: after).map Prod.fst = (before ++ (key, value') :: after).map Prod.fst := by
  simp

end Assoc

namespace Json

theorem field_replace_of_ne {key other : Text} (h : other ≠ key) (before after : Assoc Json)
    (value value' : Json) :
    field other (before ++ (key, value) :: after) = field other (before ++ (key, value') :: after) := by
  rw [field, Assoc.lookup_replace_of_ne h before after value value', field]

theorem field_replace {before after : Assoc Json} {key : Text} {value : Json}
    (h : Distinct (before ++ (key, value) :: after)) :
    field key (before ++ (key, value) :: after) = value := by
  rw [field, Assoc.lookup_of_mem h.nodup (List.mem_append_right _ List.mem_cons_self), Option.getD_some]

theorem field_drop_of_ne {key other : Text} (h : other ≠ key) (before after : Assoc Json) (value : Json) :
    field other (before ++ (key, value) :: after) = field other (before ++ after) := by
  rw [field, Assoc.lookup_drop_of_ne h, field]

theorem Distinct.drop {before after : Assoc Json} {key : Text} {value : Json}
    (h : Distinct (before ++ (key, value) :: after)) : Distinct (before ++ after) := by
  have hsub : (before ++ after).Sublist (before ++ (key, value) :: after) :=
    (List.Sublist.refl before).append (List.sublist_cons_self _ _)
  obtain ⟨hkeys, hvalues⟩ := (distinct_iff _).mp h
  exact (distinct_iff _).mpr ⟨hkeys.sublist (hsub.map Prod.fst), fun entry hmem => hvalues entry (hsub.mem hmem)⟩

theorem itemKeysDiffer_iff (items : List Json) :
    itemKeysDiffer items = true ↔ ∀ item ∈ items, keysDiffer item = true := by
  induction items with
  | nil => simp [itemKeysDiffer]
  | cons item rest ih => simp [itemKeysDiffer, ih]

theorem keysDiffer_item {first second : Assoc Json} (h : Distinct first → Distinct second) {front back : List Json}
    (hitems : keysDiffer (.arr (front ++ .obj first :: back)) = true) :
    keysDiffer (.arr (front ++ .obj second :: back)) = true := by
  have hall := (itemKeysDiffer_iff _).mp hitems
  refine (itemKeysDiffer_iff _).mpr fun item hmem => ?_
  rcases List.mem_append.mp hmem with hfront | hrest
  · exact hall item (List.mem_append_left _ hfront)
  · rcases List.mem_cons.mp hrest with rfl | hback
    · exact h (hall (.obj first) (List.mem_append_right _ List.mem_cons_self))
    · exact hall item (List.mem_append_right _ (List.mem_cons_of_mem _ hback))

theorem Distinct.replace {before after : Assoc Json} {key : Text} {value value' : Json}
    (h : Distinct (before ++ (key, value) :: after))
    (hvalue : keysDiffer value = true → keysDiffer value' = true) :
    Distinct (before ++ (key, value') :: after) := by
  rw [distinct_iff, ← Assoc.keys_replace before after key value value']
  obtain ⟨hkeys, hvalues⟩ := (distinct_iff _).mp h
  refine ⟨hkeys, fun entry hmem => ?_⟩
  rcases List.mem_append.mp hmem with hbefore | hrest
  · exact hvalues entry (List.mem_append_left _ hbefore)
  · rcases List.mem_cons.mp hrest with rfl | hafter
    · exact hvalue (hvalues (key, value) (List.mem_append_right _ List.mem_cons_self))
    · exact hvalues entry (List.mem_append_right _ (List.mem_cons_of_mem _ hafter))

end Json

namespace Node

open Json

/-! ## Parts of a node -/

/-- Two values that are read alike as parameters and as members of an enumeration. -/
structure ItemsAlike (value value' : Json) : Prop where
  faults : brokenRule?.badParameters? value = brokenRule?.badParameters? value'
  isList : value.items?.isNone = value'.items?.isNone
  parameters : (value.items?.getD []).filterMap Parameter.ofJson? =
    (value'.items?.getD []).filterMap Parameter.ofJson?
  enumMembers : (value.items?.getD []).filterMap EnumMember.ofJson? =
    (value'.items?.getD []).filterMap EnumMember.ofJson?

theorem ItemsAlike.refl (value : Json) : ItemsAlike value value := ⟨rfl, rfl, rfl, rfl⟩

/-- Objects are no lists. -/
theorem ItemsAlike.of_obj (first second : Assoc Json) : ItemsAlike (.obj first) (.obj second) :=
  ⟨rfl, rfl, rfl, rfl⟩

theorem ItemsAlike.of_item {first second : Assoc Json}
    (hname : (field nameKey first).truthy = (field nameKey second).truthy)
    (hparameter : Parameter.ofJson? (.obj first) = Parameter.ofJson? (.obj second))
    (hmember : EnumMember.ofJson? (.obj first) = EnumMember.ofJson? (.obj second)) (front back : List Json) :
    ItemsAlike (.arr (front ++ .obj first :: back)) (.arr (front ++ .obj second :: back)) := by
  constructor
  · simp [brokenRule?.badParameters?, firstBadParameter?, List.findIdx?_append, List.findIdx?_cons, Json.get, hname]
  · rfl
  · simp [items?, List.filterMap_append, List.filterMap_cons, hparameter]
  · simp [items?, List.filterMap_append, List.filterMap_cons, hmember]

/-- Two nodes whose own parts are read alike. -/
structure PartsAlike (first second : Assoc Json) : Prop where
  fields : ∀ key ∈ reservedKeys, key ≠ parametersKey → key ≠ bucketKey →
    field key first = field key second
  parameters : ItemsAlike (field parametersKey first) (field parametersKey second)
  members : ItemsAlike (field membersKey first) (field membersKey second)

namespace PartsAlike

variable {first second : Assoc Json} (h : PartsAlike first second)
include h

theorem kindOf_eq : kindOf first = kindOf second := by
  rw [kindOf, h.fields kindKey (by decide) (by decide) (by decide), kindOf]

theorem brokenRule?_eq (path : Text) : brokenRule? path first = brokenRule? path second := by
  simp (disch := decide) only [brokenRule?, h.fields, h.parameters.faults, h.members.isList]

theorem check_eq (path : Text) : check path first = check path second := by
  rw [check, h.brokenRule?_eq, check]

theorem declaration_eq : Declaration.ofEntries first = Declaration.ofEntries second := by
  simp (disch := decide) only [Declaration.ofEntries, h.fields, h.parameters.parameters,
    h.members.enumMembers]

end PartsAlike

/-! ## Entries of a node -/

theorem shortEntries_congr {first second : Assoc Json} (hkind : kindOf first = kindOf second)
    (hfield : field bucketKey first = field bucketKey second) : shortEntries first = shortEntries second := by
  rw [shortEntries, ownsMembers, hkind, hfield, shortEntries, ownsMembers]

theorem longEntries_congr {first second : Assoc Json} (hkind : kindOf first = kindOf second)
    (hfield : (field membersKey first).entries? = (field membersKey second).entries?) :
    longEntries first = longEntries second := by
  unfold longEntries ownsMembers
  rw [hkind, hfield]

/-- The entries of a node of this kind that are open. -/
def isOpen (kind : Option Kind) (entry : Text × Json) : Bool := !isStructural kind entry.1 entry.2

theorem openEntries_eq (entries : Assoc Json) : openEntries entries = entries.filter (isOpen (kindOf entries)) := rfl

section Replaced

variable {before after : Assoc Json} {key : Text} {value value' : Json}

theorem PartsAlike.replace (h : Distinct (before ++ (key, value) :: after))
    (h' : Distinct (before ++ (key, value') :: after))
    (hkey : key ∈ reservedKeys → key = parametersKey ∨ key = bucketKey)
    (hitems : ItemsAlike value value') :
    PartsAlike (before ++ (key, value) :: after) (before ++ (key, value') :: after) := by
  have hlist (other : Text) : ItemsAlike (field other (before ++ (key, value) :: after))
      (field other (before ++ (key, value') :: after)) := by
    by_cases hother : other = key
    · rw [hother, field_replace h, field_replace h']
      exact hitems
    · rw [field_replace_of_ne hother before after value value']
      exact .refl _
  refine ⟨fun other hreserved hparameters hbucket => ?_, hlist parametersKey, hlist membersKey⟩
  have hother : other ≠ key := by
    rintro rfl
    exact (hkey hreserved).elim hparameters hbucket
  exact field_replace_of_ne hother before after value value'

theorem openEntries_replace
    (hkind : kindOf (before ++ (key, value) :: after) = kindOf (before ++ (key, value') :: after))
    (h : isStructural (kindOf (before ++ (key, value) :: after)) key value = true)
    (h' : isStructural (kindOf (before ++ (key, value) :: after)) key value' = true) :
    openEntries (before ++ (key, value) :: after) = openEntries (before ++ (key, value') :: after) := by
  rw [openEntries_eq, openEntries_eq, ← hkind, List.filter_append, List.filter_append,
    List.filter_cons_of_neg (by simp [isOpen, h]), List.filter_cons_of_neg (by simp [isOpen, h'])]

end Replaced

theorem Collects.isStructural {entries bucket : Assoc Json} {key : Text} (h : Collects entries key bucket) :
    isStructural (kindOf entries) key (.obj bucket) = true := by
  obtain ⟨howns, _, hkey⟩ := h
  rw [isStructural_obj, howns]
  rcases hkey with rfl | ⟨rfl, hkind⟩
  · rfl
  · simp [hkind]

theorem Collects.replace {before after bucket bucket' : Assoc Json} {key : Text}
    (h : Collects (before ++ (key, .obj bucket) :: after) key bucket)
    (hnodup : ((before ++ (key, .obj bucket) :: after).map Prod.fst).Nodup)
    (hkeys : bucket'.map Prod.fst = bucket.map Prod.fst) :
    Collects (before ++ (key, .obj bucket') :: after) key bucket' := by
  obtain ⟨howns, _, hkey⟩ := h
  have hne : kindKey ≠ key := by
    rcases hkey with rfl | ⟨rfl, _⟩
    · decide
    · decide
  refine ⟨?_, ?_, ?_⟩
  · rw [ownsMembers, kindOf, ← field_replace_of_ne hne before after (.obj bucket)]
    exact howns
  · rw [Assoc.keys_replace before after key _ (.obj bucket')] at hnodup
    exact Assoc.lookup_of_mem hnodup (List.mem_append_right _ List.mem_cons_self)
  · rw [Assoc.hasKey_of_keys_eq hkeys]
    exact hkey

/-- Two nodes whose own parts are read alike, with the same below them. -/
structure SameBelow (first second : Assoc Json) : Prop where
  parts : PartsAlike first second
  opened : openEntries first = openEntries second
  short : shortEntries first = shortEntries second
  long : longEntries first = longEntries second

theorem SameBelow.ofEntries_eq {first second : Assoc Json} (h : SameBelow first second) :
    ofEntries first = ofEntries second := by
  rw [Node.ofEntries_eq, Node.ofEntries_eq, h.parts.declaration_eq, ← objects_openEntries, ← objects_openEntries,
    h.opened, shortBucket, shortBucket, h.short, longBucket, longBucket, h.long]

/-- Lists of parameters or of members of an enumeration that are read alike. -/
theorem sameBelow_of_items {before after : Assoc Json} {key : Text} {items items' : List Json}
    (h : Distinct (before ++ (key, .arr items) :: after)) (h' : Distinct (before ++ (key, .arr items') :: after))
    (hkey : key = parametersKey ∨ key = membersKey) (hitems : ItemsAlike (.arr items) (.arr items')) :
    SameBelow (before ++ (key, .arr items) :: after) (before ++ (key, .arr items') :: after) := by
  have hparts := PartsAlike.replace h h' (fun hreserved => hkey.imp_right fun hmembers =>
    absurd (hmembers ▸ hreserved) membersKey_not_mem_reservedKeys) hitems
  have hkind := hparts.kindOf_eq
  have hstructural (kind : Option Kind) (items : List Json) : isStructural kind key (.arr items) = true := by
    rcases hkey with rfl | rfl
    · rfl
    · rfl
  have hbucket : bucketKey ≠ key := by
    rcases hkey with rfl | rfl
    · decide
    · decide
  have hlong : (field membersKey (before ++ (key, .arr items) :: after)).entries? =
      (field membersKey (before ++ (key, .arr items') :: after)).entries? := by
    by_cases hmembers : membersKey = key
    · rw [hmembers, field_replace h, field_replace h']
      rfl
    · rw [field_replace_of_ne hmembers before after]
  exact ⟨hparts, openEntries_replace hkind (hstructural _ _) (hstructural _ _),
    shortEntries_congr hkind (field_replace_of_ne hbucket before after _ _), longEntries_congr hkind hlong⟩

/-- Whether an object is a nested declaration depends on its node and on its having a kind. -/
theorem isStructural_replace {before after : Assoc Json} {key : Text} {first second : Assoc Json}
    (hopen : isStructural (kindOf (before ++ (key, .obj first) :: after)) key (.obj first) = false)
    (hkind : Assoc.hasKey kindKey first = Assoc.hasKey kindKey second) :
    isStructural (kindOf (before ++ (key, .obj second) :: after)) key (.obj second) = false := by
  have hkey : kindKey ≠ key := by
    rintro rfl
    cases hopen
  rw [isStructural_obj] at hopen ⊢
  rw [ownsMembers, kindOf, ← field_replace_of_ne hkey before after (.obj first), ← hkind]
  exact hopen

/-! ## One node that differs below two others -/

/-- Two nodes whose own parts are read alike and that differ in one of the nodes right below them, to which `way`
leads: a nested declaration, or a member in one of the buckets. -/
inductive DiffersAt (first second : Assoc Json) : List Text → Assoc Json → Assoc Json → Prop where
  | nested {whole whole' before after : Assoc Json} {key : Text} (hparts : PartsAlike whole whole')
      (hopen : openEntries whole = before ++ (key, .obj first) :: after)
      (hopen' : openEntries whole' = before ++ (key, .obj second) :: after)
      (hshort : shortEntries whole = shortEntries whole') (hlong : longEntries whole = longEntries whole') :
      DiffersAt first second [key] whole whole'
  | short {whole whole' before after : Assoc Json} {name : Text} (hparts : PartsAlike whole whole')
      (hopen : openEntries whole = openEntries whole')
      (hshort : shortEntries whole = before ++ (name, .obj first) :: after)
      (hshort' : shortEntries whole' = before ++ (name, .obj second) :: after)
      (hlong : longEntries whole = longEntries whole') : DiffersAt first second [bucketKey, name] whole whole'
  | long {whole whole' before after : Assoc Json} {name : Text} (hparts : PartsAlike whole whole')
      (hopen : openEntries whole = openEntries whole') (hshort : shortEntries whole = shortEntries whole')
      (hlong : longEntries whole = before ++ (name, .obj first) :: after)
      (hlong' : longEntries whole' = before ++ (name, .obj second) :: after) :
      DiffersAt first second [membersKey, name] whole whole'

/-- An object under the long key is a bucket or a nested declaration, and here it is no bucket. -/
theorem longEntries_replace {before after : Assoc Json} {key : Text} {first second : Assoc Json}
    (h : Distinct (before ++ (key, .obj first) :: after))
    (h' : Distinct (before ++ (key, .obj second) :: after))
    (hkind : kindOf (before ++ (key, .obj first) :: after) = kindOf (before ++ (key, .obj second) :: after))
    (hopen : isStructural (kindOf (before ++ (key, .obj first) :: after)) key (.obj first) = false)
    (hopen' : isStructural (kindOf (before ++ (key, .obj second) :: after)) key (.obj second) = false) :
    longEntries (before ++ (key, .obj first) :: after) = longEntries (before ++ (key, .obj second) :: after) := by
  by_cases hmembers : membersKey = key
  · subst hmembers
    have hmem (below : Assoc Json) : (membersKey, Json.obj below) ∈ before ++ (membersKey, .obj below) :: after :=
      List.mem_append_right _ List.mem_cons_self
    rw [longEntries_of_obj (Assoc.lookup_of_mem h.nodup (hmem first)), hopen,
      longEntries_of_obj (Assoc.lookup_of_mem h'.nodup (hmem second)), hopen']
    rfl
  · exact longEntries_congr hkind (by rw [field_replace_of_ne hmembers before after])

theorem differsAt_of_child {before after : Assoc Json} {key : Text} {first second : Assoc Json}
    (h : Distinct (before ++ (key, .obj first) :: after))
    (h' : Distinct (before ++ (key, .obj second) :: after))
    (hopen : isStructural (kindOf (before ++ (key, .obj first) :: after)) key (.obj first) = false)
    (hopen' : isStructural (kindOf (before ++ (key, .obj second) :: after)) key (.obj second) = false) :
    DiffersAt first second [key] (before ++ (key, .obj first) :: after)
      (before ++ (key, .obj second) :: after) := by
  have hnot : key ∉ reservedKeys :=
    open_not_reserved (mem_openEntries.mpr ⟨List.mem_append_right _ List.mem_cons_self, hopen⟩)
  have hbucket : bucketKey ≠ key := by
    rintro rfl
    exact hnot bucketKey_mem_reservedKeys
  have hparts := PartsAlike.replace h h' (fun hreserved => absurd hreserved hnot) (.of_obj first second)
  have hkind := hparts.kindOf_eq
  have hsplit {below : Assoc Json}
      (hbelow : isStructural (kindOf (before ++ (key, .obj below) :: after)) key (.obj below) = false) :
      openEntries (before ++ (key, .obj below) :: after) =
        before.filter (isOpen (kindOf (before ++ (key, .obj below) :: after))) ++
          (key, .obj below) :: after.filter (isOpen (kindOf (before ++ (key, .obj below) :: after))) := by
    rw [openEntries_eq, List.filter_append, List.filter_cons_of_pos (by simp [isOpen, hbelow])]
  exact .nested hparts (hkind ▸ hsplit hopen) (hsplit hopen')
    (shortEntries_congr hkind (field_replace_of_ne hbucket before after _ _))
    (longEntries_replace h h' hkind hopen hopen')

theorem differsAt_of_member {before after front back : Assoc Json} {key name : Text}
    {first second : Assoc Json}
    (h : Distinct (before ++ (key, .obj (front ++ (name, .obj first) :: back)) :: after))
    (h' : Distinct (before ++ (key, .obj (front ++ (name, .obj second) :: back)) :: after))
    (hbucket : Collects (before ++ (key, .obj (front ++ (name, .obj first) :: back)) :: after) key
      (front ++ (name, .obj first) :: back)) :
    DiffersAt first second [key, name]
      (before ++ (key, .obj (front ++ (name, .obj first) :: back)) :: after)
      (before ++ (key, .obj (front ++ (name, .obj second) :: back)) :: after) := by
  have hparts := PartsAlike.replace h h' (fun hreserved => hbucket.2.2.symm.imp
    (fun hmembers => absurd (hmembers.1 ▸ hreserved) membersKey_not_mem_reservedKeys) id)
    (.of_obj (front ++ (name, .obj first) :: back) (front ++ (name, .obj second) :: back))
  have hkind := hparts.kindOf_eq
  have hbucket' := hbucket.replace h.nodup (Assoc.keys_replace front back name (.obj second) (.obj first))
  have hopen := openEntries_replace hkind hbucket.isStructural (hkind ▸ hbucket'.isStructural)
  rcases hbucket.eq_entries with ⟨rfl, hshort⟩ | ⟨rfl, hlong⟩
  · rcases hbucket'.eq_entries with ⟨_, hshort'⟩ | ⟨hkey, _⟩
    · exact .short hparts hopen hshort hshort'
        (longEntries_congr hkind (by rw [field_replace_of_ne (by decide) before after]))
    · cases hkey
  · rcases hbucket'.eq_entries with ⟨hkey, _⟩ | ⟨_, hlong'⟩
    · cases hkey
    · exact .long hparts hopen (shortEntries_congr hkind (field_replace_of_ne (by decide) before after _ _))
        hlong hlong'

namespace DiffersAt

variable {first second whole whole' : Assoc Json} {way : List Text}

theorem parts (h : DiffersAt first second way whole whole') : PartsAlike whole whole' := by
  cases h with
  | nested hparts => exact hparts
  | short hparts => exact hparts
  | long hparts => exact hparts

/-- **The same tree below gives the same tree.** -/
theorem ofEntries_eq (h : DiffersAt first second way whole whole') (htree : ofEntries first = ofEntries second) :
    ofEntries whole = ofEntries whole' := by
  have htrees (before after : Assoc Json) (key : Text) :
      treesOf (objects (before ++ (key, .obj first) :: after)) =
        treesOf (objects (before ++ (key, .obj second) :: after)) := by
    simp [objects, treesOf, entries?, htree]
  rw [Node.ofEntries_eq, Node.ofEntries_eq, h.parts.declaration_eq, ← objects_openEntries, ← objects_openEntries,
    shortBucket, shortBucket, longBucket, longBucket]
  cases h with
  | nested _ hopen hopen' hshort hlong => rw [hopen, hopen', htrees, hshort, hlong]
  | short _ hopen hshort hshort' hlong => rw [hopen, hshort, hshort', htrees, hlong]
  | long _ hopen hshort hlong hlong' => rw [hopen, hshort, hlong, hlong', htrees]

/-- **Related steps below give related steps**, if the steps at the two nodes themselves are related. -/
theorem forall₂_steps {R : Step → Step → Prop} (hrefl : ∀ step, R step step) {keys : List Text}
    (h : DiffersAt first second way whole whole') (hnode : R (.node ⟨keys, whole⟩) (.node ⟨keys, whole'⟩))
    (hsteps : List.Forall₂ R (steps (keys ++ way) first) (steps (keys ++ way) second)) :
    List.Forall₂ R (steps keys whole) (steps keys whole') := by
  have hsame (steps : List Step) : List.Forall₂ R steps steps := List.forall₂_same.mpr fun step _ => hrefl step
  have hentries (before after : Assoc Json) (key : Text) {place : List Text} (drop : List Text → String → Step)
      (hbelow : List.Forall₂ R (steps (place ++ [key]) first) (steps (place ++ [key]) second)) :
      List.Forall₂ R
        ((before ++ (key, .obj first) :: after).flatMap fun entry =>
          stepsAt (steps (place ++ [entry.1])) (drop (place ++ [entry.1])) entry.2)
        ((before ++ (key, .obj second) :: after).flatMap fun entry =>
          stepsAt (steps (place ++ [entry.1])) (drop (place ++ [entry.1])) entry.2) := by
    rw [List.flatMap_append, List.flatMap_append, List.flatMap_cons, List.flatMap_cons]
    exact List.rel_append (hsame _) (List.rel_append hbelow (hsame _))
  rw [steps_eq, steps_eq]
  refine .cons hnode ?_
  cases h with
  | nested _ hopen hopen' hshort hlong =>
    rw [hopen, hopen', hshort, hlong]
    exact List.rel_append (List.rel_append (hentries _ _ _ Step.value hsteps) (hsame _)) (hsame _)
  | short _ hopen hshort hshort' hlong =>
    rw [hopen, hshort, hshort', hlong]
    rw [List.append_cons] at hsteps
    exact List.rel_append (List.rel_append (hsame _) (hentries _ _ _ Step.member hsteps)) (hsame _)
  | long _ hopen hshort hlong hlong' =>
    rw [hopen, hshort, hlong, hlong']
    rw [List.append_cons] at hsteps
    exact List.rel_append (List.rel_append (hsame _) (hsame _)) (hentries _ _ _ Step.member hsteps)

end DiffersAt

end Node

/-! ## Changes anywhere -/

/-- A change of one node, which is reached by `keys`: a nested declaration that stays one, or a member in a
bucket. -/
inductive Json.Within (change : Assoc Json → Assoc Json → Prop) : List Text → Assoc Json → Assoc Json → Prop where
  | here {first second : Assoc Json} (h : change first second) : Within change [] first second
  | child (before after : Assoc Json) {key : Text} {keys : List Text} {first second : Assoc Json}
      (hopen : Node.isStructural (kindOf (before ++ (key, .obj first) :: after)) key (.obj first) = false)
      (hopen' : Node.isStructural (kindOf (before ++ (key, .obj second) :: after)) key (.obj second) = false)
      (h : Within change keys first second) :
      Within change (key :: keys) (before ++ (key, .obj first) :: after) (before ++ (key, .obj second) :: after)
  | member (before after front back : Assoc Json) {key name : Text} {keys : List Text} {first second : Assoc Json}
      (hbucket : Node.Collects (before ++ (key, .obj (front ++ (name, .obj first) :: back)) :: after) key
        (front ++ (name, .obj first) :: back))
      (h : Within change keys first second) :
      Within change (key :: name :: keys)
        (before ++ (key, .obj (front ++ (name, .obj first) :: back)) :: after)
        (before ++ (key, .obj (front ++ (name, .obj second) :: back)) :: after)

namespace Json.Within

variable {change : Assoc Json → Assoc Json → Prop} {keys : List Text} {first second : Assoc Json}

theorem distinct (hchange : ∀ {first second}, change first second → Distinct first → Distinct second)
    (h : Within change keys first second) (hfirst : Distinct first) : Distinct second := by
  induction h with
  | here hhere => exact hchange hhere hfirst
  | child before after _ _ _ ih => exact hfirst.replace ih
  | member before after front back _ _ ih => exact hfirst.replace fun hbucket => Distinct.replace hbucket ih

/-- **What holds of a change is carried up to the root**, if it is carried over each level. -/
theorem carry {P : List Text → Assoc Json → Assoc Json → Prop}
    (hchange : ∀ {first second}, change first second → Distinct first → Distinct second)
    (hhere : ∀ {first second}, change first second → Distinct first → P [] first second)
    (hlevel : ∀ {way keys first second whole whole'}, Node.DiffersAt first second way whole whole' →
      P keys first second → P (way ++ keys) whole whole')
    (h : Within change keys first second) (hfirst : Distinct first) : P keys first second := by
  have hsecond := h.distinct hchange hfirst
  induction h with
  | here hchanged => exact hhere hchanged hfirst
  | child before after hopen hopen' h ih =>
    have hbelow := hfirst.of_mem (List.mem_append_right _ List.mem_cons_self)
    exact hlevel (Node.differsAt_of_child hfirst hsecond hopen hopen') (ih hbelow (h.distinct hchange hbelow))
  | member before after front back hbucket h ih =>
    have hmember := (hfirst.of_mem (List.mem_append_right _ List.mem_cons_self)).of_mem
      (List.mem_append_right _ List.mem_cons_self)
    exact hlevel (Node.differsAt_of_member hfirst hsecond hbucket) (ih hmember (h.distinct hchange hmember))

end Json.Within

/-! ## Changes at a position -/

/-- The entries with an edit of the object that `keys` lead to. -/
def Json.editAt (edit : Assoc Json → Assoc Json) : List Text → Assoc Json → Assoc Json
  | [], entries => edit entries
  | key :: keys, entries =>
    Assoc.modify key (fun
      | .obj below => .obj (editAt edit keys below)
      | value => value) entries

namespace Node

open Json

/-- A node with a hole in one of its slots: what is put there takes the place of `below`, in an edit as in a change
of one node. -/
structure Hole (entries below : Assoc Json) (way : List Text) (fill : Assoc Json → Assoc Json) : Prop where
  whole : fill below = entries
  keys : ∀ inner, (fill inner).map Prod.fst = entries.map Prod.fst
  edited : ∀ edit keys, editAt edit (way ++ keys) entries = fill (editAt edit keys below)
  within : ∀ {change keys first second}, Assoc.hasKey kindKey first = Assoc.hasKey kindKey below →
    Assoc.hasKey kindKey second = Assoc.hasKey kindKey below → Within change keys first second →
      Within change (way ++ keys) (fill first) (fill second)

theorem hole_of_open {entries below : Assoc Json} {key : Text} (h : Distinct entries)
    (hmem : (key, .obj below) ∈ openEntries entries) : ∃ fill, Hole entries below [key] fill := by
  obtain ⟨hin, hopen⟩ := mem_openEntries.mp hmem
  obtain ⟨before, after, rfl, hmodify⟩ := Assoc.exists_split_of_lookup (Assoc.lookup_of_mem h.nodup hin)
  refine ⟨fun inner => before ++ (key, .obj inner) :: after, rfl, fun inner => Assoc.keys_replace .., ?_, ?_⟩
  · intro edit keys
    exact hmodify _
  · intro change keys first second hfirst hsecond hwithin
    exact .child before after (isStructural_replace hopen hfirst.symm) (isStructural_replace hopen hsecond.symm)
      hwithin

theorem hole_of_member {entries bucket below : Assoc Json} {key name : Text} (h : Distinct entries)
    (hcollects : Collects entries key bucket) (hmem : (name, .obj below) ∈ bucket) :
    ∃ fill, Hole entries below [key, name] fill := by
  obtain ⟨before, after, rfl, hmodify⟩ := Assoc.exists_split_of_lookup hcollects.2.1
  have hbucket : Distinct bucket := h.of_mem (List.mem_append_right _ List.mem_cons_self)
  obtain ⟨front, back, rfl, hmodify'⟩ := Assoc.exists_split_of_lookup (Assoc.lookup_of_mem hbucket.nodup hmem)
  refine ⟨fun inner => before ++ (key, .obj (front ++ (name, .obj inner) :: back)) :: after, rfl,
    fun inner => Assoc.keys_replace .., ?_, ?_⟩
  · intro edit keys
    exact (hmodify _).trans (congrArg (fun bucket => before ++ (key, .obj bucket) :: after) (hmodify' _))
  · intro change keys first second _ _ hwithin
    exact .member before after front back (hcollects.replace h.nodup (Assoc.keys_replace ..)) hwithin

/-- Each node below another stands in a hole of it. -/
theorem exists_hole {entries below : Assoc Json} (h : Distinct entries) {slot : Slot} (hslot : slot ∈ slots entries)
    (hvalue : slot.value = .obj below) : ∃ fill, Hole entries below slot.way fill := by
  rcases mem_slots.mp hslot with ⟨key, value, hmem, rfl⟩ | ⟨name, value, hmem, rfl⟩ | ⟨name, value, hmem, rfl⟩ <;>
    obtain rfl := hvalue
  · exact hole_of_open h hmem
  · exact hole_of_member h (collects_shortEntries (List.ne_nil_of_mem hmem)) hmem
  · exact hole_of_member h (collects_longEntries (List.ne_nil_of_mem hmem)) hmem

/-- The node that `keys` lead to can be edited: if it keeps having a kind or not, so do the nodes above it, and two
edits of it are a change of one node. -/
structure Focus (entries target : Assoc Json) (keys : List Text) : Prop where
  same : editAt id keys entries = entries
  kind : ∀ {edit}, Assoc.hasKey kindKey (edit target) = Assoc.hasKey kindKey target →
    Assoc.hasKey kindKey (editAt edit keys entries) = Assoc.hasKey kindKey entries
  within : ∀ {change edit edit'}, Assoc.hasKey kindKey (edit target) = Assoc.hasKey kindKey target →
    Assoc.hasKey kindKey (edit' target) = Assoc.hasKey kindKey target → change (edit target) (edit' target) →
      Within change keys (editAt edit keys entries) (editAt edit' keys entries)

theorem Focus.here (entries : Assoc Json) : Focus entries entries [] :=
  ⟨rfl, fun hkind => hkind, fun _ _ hchange => .here hchange⟩

theorem Focus.inside {entries below target : Assoc Json} {way keys : List Text} {fill : Assoc Json → Assoc Json}
    (hhole : Hole entries below way fill) (hfocus : Focus below target keys) :
    Focus entries target (way ++ keys) := by
  refine ⟨?_, ?_, ?_⟩
  · rw [hhole.edited, hfocus.same, hhole.whole]
  · intro edit _
    rw [hhole.edited]
    exact Assoc.hasKey_of_keys_eq (hhole.keys _) kindKey
  · intro change edit edit' hkind hkind' hchange
    rw [hhole.edited, hhole.edited]
    exact hhole.within (hfocus.kind hkind) (hfocus.kind hkind') (hfocus.within hkind hkind' hchange)

theorem Focus.distinct {entries target : Assoc Json} {keys : List Text} (hfocus : Focus entries target keys)
    (h : Distinct entries) {edit : Assoc Json → Assoc Json}
    (hkind : Assoc.hasKey kindKey (edit target) = Assoc.hasKey kindKey target) (hedit : Distinct (edit target)) :
    Distinct (editAt edit keys entries) := by
  have hwithin : Within (fun _ second => Distinct second) keys (editAt id keys entries) (editAt edit keys entries) :=
    hfocus.within rfl hkind hedit
  rw [hfocus.same] at hwithin
  exact hwithin.distinct (fun hsecond _ => hsecond) h

/-- **Every node of a pass can be edited.** -/
theorem exists_focus {front : List Text} {entries : Assoc Json} (h : Distinct entries) {stop : Stop}
    (hstop : .node stop ∈ steps front entries) :
    ∃ keys, stop.keys = front ++ keys ∧ Focus entries stop.entries keys := by
  rw [steps_eq_slots, List.mem_cons, List.mem_flatMap] at hstop
  rcases hstop with heq | ⟨slot, hslot, hstep⟩
  · obtain rfl := Step.node.inj heq
    exact ⟨[], (List.append_nil front).symm, .here entries⟩
  · rcases slot.steps_cases front with ⟨below, hbelow, hsteps⟩ | ⟨hnone, hsteps⟩ <;> rw [hsteps] at hstep
    · -- What is edited below the slot is put back into its hole.
      obtain ⟨keys, hkeys, hfocus⟩ := exists_focus (distinct_slot h hslot hbelow) hstep
      obtain ⟨fill, hhole⟩ := exists_hole h hslot hbelow
      exact ⟨slot.way ++ keys, hkeys.trans (List.append_assoc ..), hfocus.inside hhole⟩
    · exact absurd (Slot.value_of_head (List.mem_singleton.mp hstep).symm) (hnone stop.entries)
termination_by sizeOf entries
decreasing_by
  exact sizeOf_slot hslot hbelow

end Node

end Externs
