import Externs.Proofs.CheckedRuns
import Externs.Proofs.Replacement
import Mathlib.Logic.Relation

/-!
# Null fields

A field that is null is read like one that is missing, in nodes, in parameters, in members of enumerations and in
the fields of structural types, at any depth. Names of parameters and of members are the exception: a missing one is
empty, and a null one is the text that stands for null.

* `Json.field_null`: a null field and a missing one;
* `Json.ThinsType`, `Json.ThinsItem`, `Json.Thins`: one null field less in a type, in an item of a list, in a node;
* `Json.Thinned`: any number of null fields less, in any of the nodes of a tree;
* `Node.ofEntries_eq_of_thinned`: the tree stays the same;
* `Document.null_reads_as_missing`: so do documents, and names are the only exception.
-/

namespace Externs

set_option autoImplicit false

namespace Json

section Null

variable {front back : Assoc Json} {key : Text}

theorem not_mem_of_nodup {value : Json} (h : ((front ++ (key, value) :: back).map Prod.fst).Nodup) :
    key ∉ (front ++ back).map Prod.fst := by
  rw [List.map_append, List.map_cons] at h
  rw [List.map_append]
  exact (List.nodup_middle.mp h).notMem

/-- **A null field is read like a missing one.** -/
theorem field_null (h : ((front ++ (key, .null) :: back).map Prod.fst).Nodup) (other : Text) :
    field other (front ++ (key, .null) :: back) = field other (front ++ back) := by
  by_cases hother : other = key
  · subst hother
    have hnull := Assoc.lookup_of_mem h (List.mem_append_right front List.mem_cons_self)
    have hnone := (Assoc.lookup_eq_none_iff other (front ++ back)).mpr (not_mem_of_nodup h)
    rw [field, hnull, field, hnone]
    rfl
  · exact field_drop_of_ne hother front back _

end Null

/-! ## One null field less -/

/-- A structural type in which a field, at some depth, has one null entry less. -/
inductive ThinsType : Json → Json → Prop where
  | entry (before after front back : Assoc Json) (name key : Text) :
      ThinsType (.obj (before ++ (name, .obj (front ++ (key, .null) :: back)) :: after))
        (.obj (before ++ (name, .obj (front ++ back)) :: after))
  | deeper (before after front back : Assoc Json) (name : Text) {type type' : Json} (h : ThinsType type type') :
      ThinsType (.obj (before ++ (name, .obj (front ++ (typeKey, type) :: back)) :: after))
        (.obj (before ++ (name, .obj (front ++ (typeKey, type') :: back)) :: after))

/-- A parameter or a member of an enumeration that has one null entry less, but not that of its name; or its type
does. -/
inductive ThinsItem : Assoc Json → Assoc Json → Prop where
  | entry (front back : Assoc Json) {key : Text} (hkey : key ≠ nameKey) :
      ThinsItem (front ++ (key, .null) :: back) (front ++ back)
  | type (front back : Assoc Json) {type type' : Json} (h : ThinsType type type') :
      ThinsItem (front ++ (typeKey, type) :: back) (front ++ (typeKey, type') :: back)

/-- A node that has one null entry less; or its type does, or an item of one of its lists. -/
inductive Thins : Assoc Json → Assoc Json → Prop where
  | entry (front back : Assoc Json) (key : Text) : Thins (front ++ (key, .null) :: back) (front ++ back)
  | type (front back : Assoc Json) {type type' : Json} (h : ThinsType type type') :
      Thins (front ++ (typeKey, type) :: back) (front ++ (typeKey, type') :: back)
  | item (before after : Assoc Json) (front back : List Json) {key : Text} {first second : Assoc Json}
      (hkey : key = parametersKey ∨ key = membersKey) (h : ThinsItem first second) :
      Thins (before ++ (key, .arr (front ++ .obj first :: back)) :: after)
        (before ++ (key, .arr (front ++ .obj second :: back)) :: after)

/-- Any number of null entries less, in any of the nodes of a tree. -/
def Thinned : Assoc Json → Assoc Json → Prop :=
  Relation.ReflTransGen fun first second => ∃ keys, Within Thins keys first second

theorem ThinsType.keysDiffer {type type' : Json} (h : ThinsType type type') :
    Json.keysDiffer type = true → Json.keysDiffer type' = true := by
  induction h with
  | entry before after front back name key => exact fun hd => Distinct.replace hd Distinct.drop
  | deeper before after front back name _ ih =>
    exact fun hd => Distinct.replace hd fun hentry => Distinct.replace hentry ih

theorem ThinsItem.distinct {first second : Assoc Json} (h : ThinsItem first second) (hfirst : Distinct first) :
    Distinct second := by
  cases h with
  | entry front back _ => exact hfirst.drop
  | type front back htype => exact hfirst.replace htype.keysDiffer

theorem Thins.distinct {first second : Assoc Json} (h : Thins first second) (hfirst : Distinct first) :
    Distinct second := by
  cases h with
  | entry front back key => exact hfirst.drop
  | type front back htype => exact hfirst.replace htype.keysDiffer
  | item before after front back _ hitem => exact hfirst.replace (keysDiffer_item hitem.distinct)

end Json

/-! ## Types -/

namespace Descriptor

open Json

theorem fieldsOf_append (first second : List (Text × Json)) :
    fieldsOf (first ++ second) = fieldsOf first ++ fieldsOf second := by
  induction first with
  | nil => simp [fieldsOf]
  | cons entry rest ih =>
    obtain ⟨name, value⟩ := entry
    cases value <;> simp [fieldsOf, ih]

theorem ofJson_replace {before after first second : Assoc Json} {name : Text}
    (htype : ofJson (field typeKey first) = ofJson (field typeKey second))
    (hoptional : field optionalKey first = field optionalKey second) :
    ofJson (.obj (before ++ (name, .obj first) :: after)) = ofJson (.obj (before ++ (name, .obj second) :: after)) := by
  simp only [ofJson, fieldsOf_append, fieldsOf, typeOf_eq, htype, hoptional]

theorem ofJson_of_thins {type type' : Json} (h : ThinsType type type') (hdistinct : keysDiffer type = true) :
    ofJson type = ofJson type' := by
  induction h with
  | entry before after front back name key =>
    have hentry : Distinct (front ++ (key, .null) :: back) :=
      Distinct.of_mem hdistinct (List.mem_append_right _ List.mem_cons_self)
    have hfield := field_null hentry.nodup
    exact ofJson_replace (congrArg ofJson (hfield typeKey)) (hfield optionalKey)
  | @deeper before after front back name type type' h ih =>
    have hentry : Distinct (front ++ (typeKey, type) :: back) :=
      Distinct.of_mem hdistinct (List.mem_append_right _ List.mem_cons_self)
    have htype : keysDiffer type = true :=
      ((distinct_iff _).mp hentry).2 _ (List.mem_append_right _ List.mem_cons_self)
    refine ofJson_replace ?_ (field_replace_of_ne (by decide) front back _ _)
    rw [field_replace hentry, field_replace (hentry.replace h.keysDiffer), ih htype]

end Descriptor

/-! ## Items -/

namespace Json

/-- What is read of an item that has one null entry less. -/
theorem ThinsItem.reads {first second : Assoc Json} (h : ThinsItem first second) (hfirst : Distinct first) :
    Assoc.lookup nameKey first = Assoc.lookup nameKey second ∧
      Descriptor.ofJson (field typeKey first) = Descriptor.ofJson (field typeKey second) ∧
        ∀ key, key ≠ typeKey → field key first = field key second := by
  cases h with
  | entry front back hkey =>
    have hfield := field_null hfirst.nodup
    exact ⟨Assoc.lookup_drop_of_ne (Ne.symm hkey) front back _, congrArg Descriptor.ofJson (hfield typeKey),
      fun other _ => hfield other⟩
  | @type front back type type' htype =>
    refine ⟨Assoc.lookup_replace_of_ne (by decide) front back _ _, ?_,
      fun other hother => field_replace_of_ne hother front back _ _⟩
    have hkeys : keysDiffer type = true :=
      ((distinct_iff _).mp hfirst).2 _ (List.mem_append_right _ List.mem_cons_self)
    rw [field_replace hfirst, field_replace (hfirst.replace htype.keysDiffer),
      Descriptor.ofJson_of_thins htype hkeys]

theorem ThinsItem.itemsAlike {first second : Assoc Json} (h : ThinsItem first second) (hfirst : Distinct first)
    (front back : List Json) :
    Node.ItemsAlike (.arr (front ++ .obj first :: back)) (.arr (front ++ .obj second :: back)) := by
  obtain ⟨hname, htype, hfield⟩ := h.reads hfirst
  have hoptional := hfield optionalKey (by decide)
  have hspread := hfield spreadKey (by decide)
  have hvalue := hfield valueKey (by decide)
  refine .of_item ?_ ?_ ?_ front back
  · rw [hfield nameKey (by decide)]
  · simp only [Parameter.ofJson?, nameText, hname, htype, hoptional, hspread]
  · simp only [EnumMember.ofJson?, nameText, hname, hvalue]

end Json

/-! ## Nodes -/

namespace Node

open Json

theorem ofEntries_congr {first second : Assoc Json}
    (hdeclaration : Declaration.ofEntries first = Declaration.ofEntries second)
    (hnested : nested first = nested second) (hshort : shortEntries first = shortEntries second)
    (hlong : longEntries first = longEntries second) : ofEntries first = ofEntries second := by
  rw [ofEntries_eq, ofEntries_eq, hdeclaration, hnested, shortBucket, shortBucket, hshort, longBucket, longBucket,
    hlong]

theorem ofEntries_null {front back : Assoc Json} {key : Text} (h : Distinct (front ++ (key, .null) :: back)) :
    ofEntries (front ++ (key, .null) :: back) = ofEntries (front ++ back) := by
  have hfield := field_null h.nodup
  have hkind : kindOf (front ++ (key, .null) :: back) = kindOf (front ++ back) := by
    rw [kindOf, hfield, kindOf]
  have hobjects : objects (front ++ (key, .null) :: back) = objects (front ++ back) := by
    simp [objects, entries?]
  refine ofEntries_congr ?_ ?_ (shortEntries_congr hkind (hfield bucketKey))
    (longEntries_congr hkind (congrArg entries? (hfield membersKey)))
  · simp only [Declaration.ofEntries, hfield]
  · rw [nested, nested, hobjects, ownsMembers, ownsMembers, hkind]

theorem ofEntries_type {front back : Assoc Json} {type type' : Json} (h : Distinct (front ++ (typeKey, type) :: back))
    (h' : Distinct (front ++ (typeKey, type') :: back)) (htype : Descriptor.ofJson type = Descriptor.ofJson type') :
    ofEntries (front ++ (typeKey, type) :: back) = ofEntries (front ++ (typeKey, type') :: back) := by
  have hfield {key : Text} (hkey : key ≠ typeKey) := field_replace_of_ne hkey front back type type'
  have hkind : kindOf (front ++ (typeKey, type) :: back) = kindOf (front ++ (typeKey, type') :: back) := by
    rw [kindOf, hfield (by decide), kindOf]
  have hopen := openEntries_replace hkind rfl rfl
  refine ofEntries_congr ?_ ?_ (shortEntries_congr hkind (hfield (by decide)))
    (longEntries_congr hkind (congrArg entries? (hfield (by decide))))
  · simp (disch := decide) only [Declaration.ofEntries, hfield, field_replace h, field_replace h', htype]
  · rw [← objects_openEntries, hopen, objects_openEntries]

theorem ofEntries_eq_of_thins {first second : Assoc Json} (h : Thins first second) (hfirst : Distinct first) :
    ofEntries first = ofEntries second := by
  have hsecond := h.distinct hfirst
  cases h with
  | entry front back key => exact ofEntries_null hfirst
  | type front back htype =>
    have hkeys := ((distinct_iff _).mp hfirst).2 _ (List.mem_append_right _ List.mem_cons_self)
    exact ofEntries_type hfirst hsecond (Descriptor.ofJson_of_thins htype hkeys)
  | item before after front back hkey hitem =>
    have hitems := ((distinct_iff _).mp hfirst).2 _ (List.mem_append_right _ List.mem_cons_self)
    have hentry := (itemKeysDiffer_iff _).mp hitems _ (List.mem_append_right _ List.mem_cons_self)
    exact (sameBelow_of_items hfirst hsecond hkey (hitem.itemsAlike hentry front back)).ofEntries_eq

/-- **Null fields leave no trace in a tree.** -/
theorem ofEntries_eq_of_thinned {first second : Assoc Json} (h : Thinned first second) (hfirst : Distinct first) :
    Distinct second ∧ ofEntries first = ofEntries second := by
  induction h with
  | refl => exact ⟨hfirst, rfl⟩
  | tail _ hstep ih =>
    obtain ⟨hmiddle, htree⟩ := ih
    obtain ⟨keys, hwithin⟩ := hstep
    have hnext := hwithin.carry (P := fun _ first second => ofEntries first = ofEntries second) Thins.distinct
      ofEntries_eq_of_thins DiffersAt.ofEntries_eq hmiddle
    exact ⟨hwithin.distinct Thins.distinct hmiddle, htree.trans hnext⟩

end Node

/-! ## Names -/

section Names

variable {front back : Assoc Json}

theorem Json.nameText_null (h : Json.Distinct (front ++ (Json.nameKey, .null) :: back)) :
    Json.nameText (front ++ (Json.nameKey, .null) :: back) = "None" ∧ Json.nameText (front ++ back) = [] := by
  have hnull := Assoc.lookup_of_mem h.nodup (List.mem_append_right front List.mem_cons_self)
  have hnone := (Assoc.lookup_eq_none_iff Json.nameKey (front ++ back)).mpr (Json.not_mem_of_nodup h.nodup)
  rw [Json.nameText, hnull, Json.nameText, hnone]
  exact ⟨rfl, rfl⟩

variable {key : Text} (h : Json.Distinct (front ++ (key, .null) :: back))
include h

theorem Json.nameText_null_iff :
    Json.nameText (front ++ (key, .null) :: back) = Json.nameText (front ++ back) ↔ key ≠ Json.nameKey := by
  constructor
  · rintro heq rfl
    obtain ⟨hnull, hnone⟩ := Json.nameText_null h
    rw [hnull, hnone] at heq
    exact absurd heq (by decide)
  · intro hkey
    rw [Json.nameText, Assoc.lookup_drop_of_ne (Ne.symm hkey), Json.nameText]

theorem Parameter.ofJson?_null_iff :
    Parameter.ofJson? (.obj (front ++ (key, .null) :: back)) = Parameter.ofJson? (.obj (front ++ back)) ↔
      key ≠ Json.nameKey := by
  have hfield := Json.field_null h.nodup
  rw [← Json.nameText_null_iff h]
  simp [Parameter.ofJson?, hfield]

theorem EnumMember.ofJson?_null_iff :
    EnumMember.ofJson? (.obj (front ++ (key, .null) :: back)) = EnumMember.ofJson? (.obj (front ++ back)) ↔
      key ≠ Json.nameKey := by
  have hfield := Json.field_null h.nodup
  rw [← Json.nameText_null_iff h]
  simp [EnumMember.ofJson?, hfield]

end Names

namespace Document

/-- **Null reads as missing, except for names.** A mapping from which any number of null fields are left out, at any
depth, gives the same tree and the same documents, as long as no name of a parameter or of a member of an enumeration
is among them. For such an item the name is the one entry that matters: a null name is read as a text, and a missing
one as the empty text. -/
theorem null_reads_as_missing {first second : Json.Mapping} (h : Json.Thinned first.entries second.entries) :
    (∃ tree, (Node.ingest false first.value).outcome = .ok tree ∧
      (Node.ingest false second.value).outcome = .ok tree ∧
      ∀ policy settings, settings.validateInput = false →
        (ofJson policy settings first.value).outcome = .ok (ofTree policy settings tree) ∧
          (ofJson policy settings second.value).outcome = .ok (ofTree policy settings tree)) ∧
    ∀ (front back : Assoc Json) (key : Text), Json.Distinct (front ++ (key, .null) :: back) →
      (Parameter.ofJson? (.obj (front ++ (key, .null) :: back)) = Parameter.ofJson? (.obj (front ++ back)) ↔
        key ≠ Json.nameKey) ∧
      (EnumMember.ofJson? (.obj (front ++ (key, .null) :: back)) = EnumMember.ofJson? (.obj (front ++ back)) ↔
        key ≠ Json.nameKey) ∧
      (key = Json.nameKey → Json.nameText (front ++ (key, .null) :: back) = "None" ∧
        Json.nameText (front ++ back) = []) := by
  refine ⟨?_, ?_⟩
  · obtain ⟨_, htree⟩ := Node.ofEntries_eq_of_thinned h first.distinct
    exact unchecked_of_ofEntries_eq htree
  · intro front back key h
    refine ⟨Parameter.ofJson?_null_iff h, EnumMember.ofJson?_null_iff h, ?_⟩
    rintro rfl
    exact Json.nameText_null h

/-- A class with a null parent and a method, which has a parameter with null entries in it and in its type. -/
def nullSample : Json.Mapping where
  entries := [("C", .obj [("kind", .str "Class"), ("qualifiedName", .str "C"), ("extends", .null),
    ("#", .obj [("m", .obj [("kind", .str "Method"), ("qualifiedName", .str "C.m"),
      ("parameters", .arr [.obj [("name", .str "a"), ("isSpread", .null),
        ("type", .obj [("x", .obj [("type", .str "T"), ("isOptional", .null)])])]])])])])]
  distinct := by decide

/-- The same class without what is null in it. -/
def thinSample : Json.Mapping where
  entries := [("C", .obj [("kind", .str "Class"), ("qualifiedName", .str "C"),
    ("#", .obj [("m", .obj [("kind", .str "Method"), ("qualifiedName", .str "C.m"),
      ("parameters", .arr [.obj [("name", .str "a"),
        ("type", .obj [("x", .obj [("type", .str "T")])])]])])])])]
  distinct := by decide

theorem null_reads_as_missing_thin :
    Json.Thinned nullSample.entries thinSample.entries ∧
      ∃ tree, (Node.ingest false nullSample.value).outcome = .ok tree ∧
        (Node.ingest false thinSample.value).outcome = .ok tree := by
  have hthinned : Json.Thinned nullSample.entries thinSample.entries := by
    refine .head ⟨_, .child [] [] rfl rfl (.here (.entry [_, _] [_] "extends"))⟩ ?_
    refine .head ⟨_, .child [] [] rfl rfl (.member [_, _] [] [] [] ⟨rfl, rfl, .inl rfl⟩
      (.here (.item [_, _] [] [] [] (.inl rfl) (.entry [_] [_] (by decide)))))⟩ ?_
    exact .single ⟨_, .child [] [] rfl rfl (.member [_, _] [] [] [] ⟨rfl, rfl, .inl rfl⟩
      (.here (.item [_, _] [] [] [] (.inl rfl) (.type [_] [] (.entry [] [] [_] [] "x" "isOptional")))))⟩
  obtain ⟨tree, hfirst, hsecond, _⟩ := (null_reads_as_missing hthinned).1
  exact ⟨hthinned, tree, hfirst, hsecond⟩

/-- A function with a parameter, of which `name` is all that is given. -/
def namedSample (name : Assoc Json) : Json :=
  .obj [("f", .obj [("kind", .str "Function"), ("qualifiedName", .str "f"), ("parameters", .arr [.obj name])])]

/-- A null name shows in the annotation and in the statement, and a missing one does not. -/
theorem null_name_is_shown :
    (∃ document, (ofJson .nullable {} (namedSample [("name", .null)])).outcome = .ok document ∧
      document.blocks = [Text.ofString "/**\n * @param \x7b*\x7d None\n*/\nf = function(None) \x7b\x7d;"]) ∧
    ∃ document, (ofJson .nullable {} (namedSample [])).outcome = .ok document ∧
      document.blocks = [Text.ofString "/**\n * @param \x7b*\x7d \n*/\nf = function() \x7b\x7d;"] := by
  exact ⟨⟨_, rfl, by decide⟩, ⟨_, rfl, by decide⟩⟩

end Document

end Externs
