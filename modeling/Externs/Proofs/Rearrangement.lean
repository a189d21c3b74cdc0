import Externs.Proofs.Replacement
import Mathlib.Logic.Relation

/-!
# Rearrangement

The parts of a declaration are looked up by their keys, so it does not matter where they stand among the
entries of a node. What is nested in a node is read in the order of the entries.

* `Json.Rearranges`: a change of order in one place, which keeps the order of what is nested;
* `Json.Rearranged`: such changes in any number of places;
* `Node.ReadAlike`: two nodes at which the pass does the same;
* `Node.ReadAlike.of_parts`: what the pass does is settled by the parts of a node;
* `Document.rearranged_reads_alike`: rearranged mappings give the same trees, notices, faults and documents.
-/

namespace Externs

set_option autoImplicit false

namespace Assoc

variable {α : Type}

/-- Where keys differ, their order does not matter for what stands under them. -/
theorem lookup_perm {first second : Assoc α} (hkeys : (first.map Prod.fst).Nodup) (h : first.Perm second)
    (key : Text) : lookup key first = lookup key second := by
  have hkeys' : (second.map Prod.fst).Nodup := (h.map Prod.fst).nodup_iff.mp hkeys
  cases hfirst : lookup key first with
  | some value =>
    have hmem : (key, value) ∈ second := h.mem_iff.mp (mem_of_lookup hfirst)
    exact (lookup_of_mem hkeys' hmem).symm
  | none =>
    have hmissing : key ∉ second.map Prod.fst := fun hmem =>
      (lookup_eq_none_iff key first).mp hfirst ((h.map Prod.fst).mem_iff.mpr hmem)
    exact ((lookup_eq_none_iff key second).mpr hmissing).symm

end Assoc

namespace Json

/-! ## Changes of order -/

/-- A change of order in one place. -/
inductive Rearranges : Assoc Json → Assoc Json → Prop where
  /-- The entries of a node come in another order, but not those that may be nested declarations. -/
  | entries {first second : Assoc Json} (hperm : first.Perm second)
      (hopen : openEntries first = openEntries second) : Rearranges first second
  /-- The change is made in a nested declaration. -/
  | child (before after : Assoc Json) {key : Text} {first second : Assoc Json}
      (hopen : Node.isStructural (kindOf (before ++ (key, .obj first) :: after)) key (.obj first) = false)
      (h : Rearranges first second) :
      Rearranges (before ++ (key, .obj first) :: after) (before ++ (key, .obj second) :: after)
  /-- The change is made in a member, which stands in a bucket. -/
  | member (before after front back : Assoc Json) {key name : Text} {first second : Assoc Json}
      (hbucket : Node.Collects (before ++ (key, .obj (front ++ (name, .obj first) :: back)) :: after) key
        (front ++ (name, .obj first) :: back))
      (h : Rearranges first second) :
      Rearranges (before ++ (key, .obj (front ++ (name, .obj first) :: back)) :: after)
        (before ++ (key, .obj (front ++ (name, .obj second) :: back)) :: after)
  /-- The entries of a parameter or of a member of an enumeration come in another order. -/
  | item (before after : Assoc Json) (front back : List Json) {key : Text} {first second : Assoc Json}
      (hkey : key = parametersKey ∨ key = membersKey) (hperm : first.Perm second) :
      Rearranges (before ++ (key, .arr (front ++ .obj first :: back)) :: after)
        (before ++ (key, .arr (front ++ .obj second :: back)) :: after)

/-- Changes of order in any number of places. -/
def Rearranged : Assoc Json → Assoc Json → Prop := Relation.ReflTransGen Rearranges

theorem Rearranges.keys_perm {first second : Assoc Json} (h : Rearranges first second) :
    (first.map Prod.fst).Perm (second.map Prod.fst) := by
  cases h with
  | entries hperm _ => exact hperm.map Prod.fst
  | child => exact .of_eq (Assoc.keys_replace _ _ _ _ _)
  | member => exact .of_eq (Assoc.keys_replace _ _ _ _ _)
  | item => exact .of_eq (Assoc.keys_replace _ _ _ _ _)

theorem hasKey_of_keys_perm {first second : Assoc Json} (h : (first.map Prod.fst).Perm (second.map Prod.fst))
    (key : Text) : Assoc.hasKey key first = Assoc.hasKey key second := by
  rw [Bool.eq_iff_iff, Assoc.hasKey_iff, Assoc.hasKey_iff, h.mem_iff]

theorem Distinct.perm {first second : Assoc Json} (h : Distinct first) (hperm : first.Perm second) :
    Distinct second := by
  obtain ⟨hkeys, hvalues⟩ := (distinct_iff first).mp h
  exact (distinct_iff second).mpr
    ⟨(hperm.map Prod.fst).nodup_iff.mp hkeys, fun entry hmem => hvalues entry (hperm.mem_iff.mpr hmem)⟩

theorem Rearranges.distinct {first second : Assoc Json} (h : Rearranges first second)
    (hfirst : Distinct first) : Distinct second := by
  induction h with
  | entries hperm _ => exact hfirst.perm hperm
  | child before after _ _ ih => exact hfirst.replace ih
  | member before after front back _ _ ih => exact hfirst.replace fun hbucket => Distinct.replace hbucket ih
  | @item before after front back key first second hkey hperm =>
    exact hfirst.replace (keysDiffer_item fun hitem => hitem.perm hperm)

end Json

namespace Node

open Json

/-! ## The pass at two nodes -/

/-- The pass does the same at both nodes, wherever they stand and whether they are checked or not. -/
def ReadAlike (first second : Assoc Json) : Prop :=
  ∀ validate path, ingestAt validate path (.obj first) = ingestAt validate path (.obj second)

/-- What the pass does at a node is settled by the parts of its declaration, by what is nested in it and
by its two buckets. -/
theorem ReadAlike.of_parts {first second : Assoc Json} (h : PartsAlike first second)
    (hchildren : ∀ validate path, ingestChildren validate path (kindOf first) first =
      ingestChildren validate path (kindOf second) second)
    (hshort : ∀ validate path, ingestEntries validate path (shortEntries first) =
      ingestEntries validate path (shortEntries second))
    (hlong : ∀ validate path, ingestEntries validate path (longEntries first) =
      ingestEntries validate path (longEntries second)) : ReadAlike first second := by
  intro validate path
  have hpath : path = pathOf [path] := rfl
  rw [hpath, ingestAt_eq, ingestAt_eq, hchildren, hshort, hlong, h.declaration_eq]
  simp only [Step.act, h.check_eq]

theorem ingestChildren_filter (validate : Bool) (path : Text) (kind : Option Kind) (entries : Assoc Json) :
    ingestChildren validate path kind (entries.filter fun (key, value) => !isStructural kind key value) =
      ingestChildren validate path kind entries := by
  induction entries with
  | nil => rfl
  | cons entry rest ih =>
    obtain ⟨key, value⟩ := entry
    cases hs : isStructural kind key value with
    | true => simp [ingestChildren, hs, ih]
    | false => simp [ingestChildren, hs, ih]

theorem ingestChildren_openEntries (validate : Bool) (path : Text) (entries : Assoc Json) :
    ingestChildren validate path (kindOf entries) (openEntries entries) =
      ingestChildren validate path (kindOf entries) entries :=
  ingestChildren_filter validate path (kindOf entries) entries

/-- The pass over what is nested in a node is settled by the open entries. -/
theorem ingestChildren_of_openEntries {first second : Assoc Json} (hkind : kindOf first = kindOf second)
    (hopen : openEntries first = openEntries second) (validate : Bool) (path : Text) :
    ingestChildren validate path (kindOf first) first =
      ingestChildren validate path (kindOf second) second := by
  rw [← ingestChildren_openEntries, ← ingestChildren_openEntries, hopen, hkind]

theorem ingestChildren_replace {first second : Assoc Json} (h : ReadAlike first second) {kind : Option Kind}
    {key : Text} (hfirst : isStructural kind key (.obj first) = false)
    (hsecond : isStructural kind key (.obj second) = false) (before after : Assoc Json) (validate : Bool)
    (path : Text) :
    ingestChildren validate path kind (before ++ (key, .obj first) :: after) =
      ingestChildren validate path kind (before ++ (key, .obj second) :: after) := by
  induction before with
  | nil => simp [ingestChildren, hfirst, hsecond, entries?, h validate (pathTo path key)]
  | cons entry rest ih =>
    obtain ⟨k, value⟩ := entry
    simp [ingestChildren, ih]

theorem ingestEntries_replace {first second : Assoc Json} (h : ReadAlike first second) (name : Text)
    (front back : Assoc Json) (validate : Bool) (path : Text) :
    ingestEntries validate path (front ++ (name, .obj first) :: back) =
      ingestEntries validate path (front ++ (name, .obj second) :: back) := by
  induction front with
  | nil => simp [ingestEntries, entries?, h validate (pathTo path name)]
  | cons entry rest ih =>
    obtain ⟨n, value⟩ := entry
    simp [ingestEntries, ih]

/-! ## One change of order -/

theorem readAlike_of_sameBelow {first second : Assoc Json} (h : SameBelow first second) :
    ReadAlike first second := by
  refine .of_parts h.parts (ingestChildren_of_openEntries h.parts.kindOf_eq h.opened) ?_ ?_
  · intro validate path
    rw [h.short]
  · intro validate path
    rw [h.long]

theorem readAlike_of_perm {first second : Assoc Json} (h : Distinct first) (hperm : first.Perm second)
    (hopen : openEntries first = openEntries second) : ReadAlike first second := by
  have hfield (key : Text) : field key first = field key second := by
    rw [field, Assoc.lookup_perm h.nodup hperm, field]
  have hparts : PartsAlike first second :=
    ⟨fun key _ _ _ => hfield key, hfield parametersKey ▸ .refl _, hfield membersKey ▸ .refl _⟩
  have hkind := hparts.kindOf_eq
  exact readAlike_of_sameBelow ⟨hparts, hopen, shortEntries_congr hkind (hfield bucketKey),
    longEntries_congr hkind (congrArg entries? (hfield membersKey))⟩

theorem readAlike_of_item {before after : Assoc Json} {front back : List Json} {key : Text}
    {first second : Assoc Json} (h : Distinct (before ++ (key, .arr (front ++ .obj first :: back)) :: after))
    (h' : Distinct (before ++ (key, .arr (front ++ .obj second :: back)) :: after))
    (hkey : key = parametersKey ∨ key = membersKey) (hperm : first.Perm second) :
    ReadAlike (before ++ (key, .arr (front ++ .obj first :: back)) :: after)
      (before ++ (key, .arr (front ++ .obj second :: back)) :: after) := by
  have hfirst : Distinct first := by
    have hitems := ((distinct_iff _).mp h).2 _ (List.mem_append_right _ List.mem_cons_self)
    exact (itemKeysDiffer_iff _).mp hitems _ (List.mem_append_right _ List.mem_cons_self)
  have hlookup := Assoc.lookup_perm hfirst.nodup hperm
  have hfield (key : Text) : field key first = field key second := by rw [field, hlookup, field]
  have hparameter : Parameter.ofJson? (.obj first) = Parameter.ofJson? (.obj second) := by
    simp [Parameter.ofJson?, nameText, hlookup, hfield]
  have hmember : EnumMember.ofJson? (.obj first) = EnumMember.ofJson? (.obj second) := by
    simp [EnumMember.ofJson?, nameText, hlookup, hfield]
  exact readAlike_of_sameBelow (sameBelow_of_items h h' hkey
    (.of_item (congrArg truthy (hfield nameKey)) hparameter hmember front back))

/-- Nodes that are read alike leave no difference above them. -/
theorem readAlike_of_differsAt {first second whole whole' : Assoc Json} {way : List Text}
    (h : DiffersAt first second way whole whole') (hread : ReadAlike first second) : ReadAlike whole whole' := by
  have hkind := h.parts.kindOf_eq
  cases h with
  | @nested _ _ before after key hparts hopen hopen' hshort hlong =>
    refine .of_parts hparts ?_ ?_ ?_
    · intro validate path
      have hmem : (key, Json.obj first) ∈ openEntries whole := by simp [hopen]
      have hmem' : (key, Json.obj second) ∈ openEntries whole' := by simp [hopen']
      rw [← ingestChildren_openEntries, ← ingestChildren_openEntries, hopen, hopen', hkind]
      exact ingestChildren_replace hread (hkind ▸ (mem_openEntries.mp hmem).2) (mem_openEntries.mp hmem').2
        before after validate path
    · intro validate path
      rw [hshort]
    · intro validate path
      rw [hlong]
  | short hparts hopen hshort hshort' hlong =>
    refine .of_parts hparts (ingestChildren_of_openEntries hkind hopen) ?_ ?_
    · intro validate path
      rw [hshort, hshort', ingestEntries_replace hread]
    · intro validate path
      rw [hlong]
  | long hparts hopen hshort hlong hlong' =>
    refine .of_parts hparts (ingestChildren_of_openEntries hkind hopen) ?_ ?_
    · intro validate path
      rw [hshort]
    · intro validate path
      rw [hlong, hlong', ingestEntries_replace hread]

/-- One change of order is not seen by the pass. -/
theorem readAlike_of_rearranges {first second : Assoc Json} (h : Rearranges first second)
    (hfirst : Distinct first) : ReadAlike first second := by
  have hsecond := h.distinct hfirst
  induction h with
  | entries hperm hopen => exact readAlike_of_perm hfirst hperm hopen
  | child before after hopen h ih =>
    have hbelow := hfirst.of_mem (List.mem_append_right _ List.mem_cons_self)
    have hopen' := isStructural_replace hopen (hasKey_of_keys_perm h.keys_perm kindKey)
    exact readAlike_of_differsAt (differsAt_of_child hfirst hsecond hopen hopen') (ih hbelow (h.distinct hbelow))
  | member before after front back hbucket h ih =>
    have hmember := (hfirst.of_mem (List.mem_append_right _ List.mem_cons_self)).of_mem
      (List.mem_append_right _ List.mem_cons_self)
    exact readAlike_of_differsAt (differsAt_of_member hfirst hsecond hbucket) (ih hmember (h.distinct hmember))
  | item before after front back hkey hperm => exact readAlike_of_item hfirst hsecond hkey hperm

/-- Nor are any number of them. -/
theorem readAlike_of_rearranged {first second : Assoc Json} (h : Rearranged first second)
    (hfirst : Distinct first) : Distinct second ∧ ReadAlike first second := by
  induction h with
  | refl => exact ⟨hfirst, fun _ _ => rfl⟩
  | tail _ hstep ih =>
    obtain ⟨hmiddle, hread⟩ := ih
    have hnext := readAlike_of_rearranges hstep hmiddle
    exact ⟨hstep.distinct hmiddle, fun validate path => (hread validate path).trans (hnext validate path)⟩

end Node

namespace Document

/-- **The order of structural entries does not matter.** From two mappings that are rearrangements of each
other the pass, with checks or without, gives the same tree after the same notices, or fails with the same
fault after the same notices; and so they give the same documents. -/
theorem rearranged_reads_alike {first second : Json.Mapping}
    (h : Json.Rearranged first.entries second.entries) :
    (∀ validate, Node.ingest validate first.value = Node.ingest validate second.value) ∧
      ∀ policy settings, ofJson policy settings first.value = ofJson policy settings second.value := by
  obtain ⟨_, hread⟩ := Node.readAlike_of_rearranged h first.distinct
  have hingest (validate : Bool) : Node.ingest validate first.value = Node.ingest validate second.value :=
    hread validate []
  refine ⟨hingest, fun policy settings => ?_⟩
  rw [ofJson, ofJson, hingest]

/-- A class with a member in a bucket and a nested function. -/
def tidySample : Json.Mapping where
  entries := [("kind", .str "Class"), ("qualifiedName", .str "C"),
    ("members", .obj [("m", .obj [("kind", .str "Function"), ("qualifiedName", .str "C.m")])]),
    ("f", .obj [("kind", .str "Function"), ("qualifiedName", .str "C.f"),
      ("parameters", .arr [.obj [("name", .str "a"), ("type", .str "number")]])])]
  distinct := by decide

/-- The same class with its entries, those of the member and those of the parameter in other orders. -/
def untidySample : Json.Mapping where
  entries := [("f", .obj [("kind", .str "Function"), ("qualifiedName", .str "C.f"),
      ("parameters", .arr [.obj [("type", .str "number"), ("name", .str "a")]])]),
    ("members", .obj [("m", .obj [("qualifiedName", .str "C.m"), ("kind", .str "Function")])]),
    ("qualifiedName", .str "C"), ("kind", .str "Class")]
  distinct := by decide

theorem tidySample_reads_alike :
    Json.Rearranged tidySample.entries untidySample.entries ∧
      (∃ tree, (Node.ingest true untidySample.value).outcome = .ok tree) ∧
      Node.ingest true tidySample.value = Node.ingest true untidySample.value := by
  have hrearranged : Json.Rearranged tidySample.entries untidySample.entries := by
    refine .head (.entries (List.reverse_perm _).symm rfl) ?_
    refine .head (.member [_] [_, _] [] [] ⟨rfl, rfl, .inr ⟨rfl, rfl⟩⟩
      (.entries (List.Perm.swap _ _ _) rfl)) ?_
    exact .single (.child [] [_, _, _] rfl
      (.item [_, _] [] [] [] (.inl rfl) (List.Perm.swap _ _ _)))
  exact ⟨hrearranged, ⟨_, rfl⟩, (rearranged_reads_alike hrearranged).1 true⟩

end Document

end Externs
