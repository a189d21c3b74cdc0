import Externs.Proofs.CheckedRuns
import Externs.Proofs.Walked

/-!
# Marks of the null policies

Two documents of one tree, under the two null policies, are the same but for marks: where one has `?` the
other has `!`. The marks of a block are counted by the types that are rendered for it.

* `Text.Apart`: two texts that are the same but for a number of marks;
* `Descriptor.uses`: a type with all types in it, each in the place where it is rendered;
* `Descriptor.apart_render`: the annotations of a type under the two policies;
* `Declaration.uses`, `Declaration.apart_blockOf`: the types that are rendered for a block, and the block;
* `Document.null_policy_changes_marks`: the two documents.
-/

namespace Externs

set_option autoImplicit false

/-! ## Texts that are the same but for marks -/

/-- The same code point twice, or the mark of one policy and that of the other. -/
def CodePoint.MarkedApart (p q : CodePoint) : Prop := p = q ∨ p = .scalar '?' ∧ q = .scalar '!'

namespace Text

/-- The number of places where the first text has `?` and the second has `!`. -/
def marksApart (first second : Text) : Nat :=
  (first.zip second).countP fun (p, q) => p = .scalar '?' && q = .scalar '!'

/-- Texts that are the same but for this many marks. -/
structure Apart (count : Nat) (first second : Text) : Prop where
  same : List.Forall₂ CodePoint.MarkedApart first second
  marks : marksApart first second = count

theorem marksApart_self (t : Text) : marksApart t t = 0 := by
  induction t with
  | nil => rfl
  | cons p rest ih =>
    have hp : ¬(p = .scalar '?' && p = .scalar '!') = true := by
      intro h
      obtain ⟨rfl, hne⟩ : p = .scalar '?' ∧ p = .scalar '!' := by simpa using h
      cases hne
    rw [marksApart, List.zip_cons_cons, List.countP_cons, if_neg hp]
    exact ih

theorem Apart.refl (t : Text) : Apart 0 t t :=
  ⟨List.forall₂_same.mpr fun _ _ => .inl rfl, marksApart_self t⟩

theorem Apart.append {m n : Nat} {s t s' t' : Text} (h : Apart m s t) (h' : Apart n s' t') :
    Apart (m + n) (s ++ s') (t ++ t') := by
  refine ⟨List.rel_append h.same h'.same, ?_⟩
  rw [marksApart, List.zip_append h.same.length_eq, List.countP_append]
  exact congrArg₂ (· + ·) h.marks h'.marks

theorem Apart.append_left {n : Nat} {s t : Text} (h : Apart n s t) (front : Text) :
    Apart n (front ++ s) (front ++ t) := by
  have happend := (Apart.refl front).append h
  rw [Nat.zero_add] at happend
  exact happend

theorem Apart.append_right {n : Nat} {s t : Text} (h : Apart n s t) (back : Text) :
    Apart n (s ++ back) (t ++ back) := h.append (.refl back)

/-- Lists of texts that are the same but for this many marks. -/
inductive AllApart : Nat → List Text → List Text → Prop where
  | nil : AllApart 0 [] []
  | cons {m n : Nat} {s t : Text} {ss ts : List Text} (h : Apart m s t) (hrest : AllApart n ss ts) :
      AllApart (m + n) (s :: ss) (t :: ts)

theorem AllApart.refl (ts : List Text) : AllApart 0 ts ts := by
  induction ts with
  | nil => exact .nil
  | cons t rest ih => exact .cons (.refl t) ih

theorem AllApart.singleton {n : Nat} {s t : Text} (h : Apart n s t) : AllApart n [s] [t] := .cons h .nil

theorem AllApart.append {m n : Nat} {ss ts ss' ts' : List Text} (h : AllApart m ss ts)
    (h' : AllApart n ss' ts') : AllApart (m + n) (ss ++ ss') (ts ++ ts') := by
  induction h with
  | nil =>
    rw [Nat.zero_add]
    exact h'
  | cons hhead _ ih =>
    rw [Nat.add_assoc]
    exact .cons hhead ih

theorem AllApart.map_append_left {n : Nat} {ss ts : List Text} (h : AllApart n ss ts) (front : Text) :
    AllApart n (ss.map (front ++ ·)) (ts.map (front ++ ·)) := by
  induction h with
  | nil => exact .nil
  | cons hhead _ ih => exact .cons (hhead.append_left front) ih

theorem AllApart.joinWith {n : Nat} {ss ts : List Text} (h : AllApart n ss ts) (separator : Text) :
    Apart n (joinWith separator ss) (joinWith separator ts) := by
  induction h with
  | nil => exact .refl []
  | cons hhead hrest ih =>
    cases hrest with
    | nil => exact hhead
    | cons => exact (hhead.append_right separator).append ih

end Text

namespace NullPolicy

open Text

theorem apart_mark : Apart 1 (mark .nullable) (mark .nonNull) := by
  refine ⟨.cons (.inr ⟨rfl, rfl⟩) .nil, ?_⟩
  decide

end NullPolicy

/-! ## Types that are rendered -/

namespace Descriptor

open Text

/-- A type in the place where it is rendered, which is optional or not. -/
structure Use where
  type : Descriptor
  optional : Bool

/-- A mark is written in a place that is not optional, unless the type is one of four strings. -/
def Use.isMarked : Use → Bool
  | ⟨.plain (.str token), optional⟩ =>
    !optional && !([Text.ofString "number", Text.ofString "boolean", Text.ofString "*",
      Text.ofString "T"].contains token)
  | ⟨_, optional⟩ => !optional

mutual

/-- What is rendered for a value that was not ingested: the value, and the types of its fields. The items
of a union are not types of their own. -/
def valueUses : Json → Bool → List Use
  | .obj entries, optional => ⟨.plain (.obj entries), optional⟩ :: entryUses entries
  | value, optional => [⟨.plain value, optional⟩]

/-- What is rendered for the fields of a structure that was not ingested. -/
def entryUses : List (Text × Json) → List Use
  | [] => []
  | (_, .obj entries) :: rest =>
    typeUses entries (Json.field Json.optionalKey entries).truthy ++ entryUses rest
  | (_, value) :: rest => valueUses value false ++ entryUses rest

/-- What is rendered for that which stands under the key of types. -/
def typeUses : List (Text × Json) → Bool → List Use
  | [], optional => [⟨.plain .null, optional⟩]
  | (key, value) :: rest, optional =>
    if key = Json.typeKey then valueUses value optional else typeUses rest optional

end

mutual

/-- What is rendered for a type: the type itself, and the types of its fields, each in the place that its
own field makes. -/
def uses : Descriptor → Bool → List Use
  | .plain value, optional => valueUses value optional
  | .record fields, optional => ⟨.record fields, optional⟩ :: fieldUses fields

/-- What is rendered for the fields of a structural type. -/
def fieldUses : List Field → List Use
  | [] => []
  | .mk _ type optional :: rest => uses type optional ++ fieldUses rest

end

/-- The number of marks that go with types in their places. -/
def marked (uses : List Use) : Nat := uses.countP Use.isMarked

theorem marked_cons (use : Use) (rest : List Use) :
    marked (use :: rest) = (if use.isMarked then 1 else 0) + marked rest := by
  rw [marked, marked, List.countP_cons, Nat.add_comm]

theorem marked_append (first second : List Use) : marked (first ++ second) = marked first + marked second :=
  List.countP_append

theorem isMarked_plain (value : Json) (optional : Bool) :
    Use.isMarked ⟨.plain value, optional⟩ = !(optional || NullPolicy.isUnmarked value) := by
  cases value with
  | str token =>
    rw [Bool.not_or]
    rfl
  | _ => simp [Use.isMarked, NullPolicy.isUnmarked]

theorem apart_markValue (value : Json) (optional : Bool) :
    Apart (if Use.isMarked ⟨.plain value, optional⟩ then 1 else 0)
      (NullPolicy.nullable.markValue value optional) (NullPolicy.nonNull.markValue value optional) := by
  rw [isMarked_plain, NullPolicy.markValue, NullPolicy.markValue]
  cases optional || NullPolicy.isUnmarked value with
  | true => exact .refl []
  | false => exact NullPolicy.apart_mark

theorem apart_renderToken (value : Json) (optional : Bool) :
    Apart (marked [⟨.plain value, optional⟩])
      (renderToken .nullable value optional) (renderToken .nonNull value optional) := by
  rw [marked_cons]
  exact ((apart_markValue value optional).append_right value.token).append_right (optionalSign optional)

theorem apart_renderUnion (items : List Json) (optional : Bool) :
    Apart (marked [⟨.plain (.arr items), optional⟩])
      (renderUnion .nullable items optional) (renderUnion .nonNull items optional) := by
  rw [marked_cons]
  exact ((((apart_markValue (.arr items) optional).append_right "(").append_right _).append_right
    ")").append_right (optionalSign optional)

/-- A structure has a mark of its own, besides those in its fields. -/
theorem apart_renderRecord {own count : Nat} {fields others : List Text} {optional : Bool}
    (hown : Apart own (NullPolicy.nullable.markValue .null optional)
      (NullPolicy.nonNull.markValue .null optional))
    (h : AllApart count fields others) :
    Apart (own + count)
      (renderRecord .nullable fields optional) (renderRecord .nonNull others optional) :=
  ((hown.append_right "\x7b").append (h.joinWith ", ")).append_right "\x7d"

theorem apart_renderField {count : Nat} (name : Text) {type other : Text} (h : Apart count type other) :
    Apart count (renderField name type) (renderField name other) :=
  h.append_left (name ++ ": ")

mutual

theorem apart_renderValue : (value : Json) → (optional : Bool) →
    Apart (marked (valueUses value optional))
      (renderValue .nullable value optional) (renderValue .nonNull value optional)
  | value, optional => by
    cases value with
    | obj entries =>
      rw [valueUses, marked_cons, renderValue, renderValue]
      exact apart_renderRecord (apart_markValue (.obj entries) optional) (apart_renderEntries entries)
    | arr items => exact apart_renderUnion items optional
    | _ => exact apart_renderToken _ optional

theorem apart_renderEntries : (entries : List (Text × Json)) →
    AllApart (marked (entryUses entries)) (renderEntries .nullable entries) (renderEntries .nonNull entries)
  | [] => .nil
  | (name, value) :: rest => by
    have hrest := apart_renderEntries rest
    cases value with
    | obj entries =>
      simp only [entryUses, marked_append, renderEntries]
      exact .cons (apart_renderField name (apart_renderType entries _)) hrest
    | arr items =>
      simp only [entryUses, valueUses, marked_append, renderEntries, renderValue]
      exact .cons (apart_renderField name (apart_renderUnion items false)) hrest
    | _ =>
      simp only [entryUses, valueUses, marked_append, renderEntries, renderValue]
      exact .cons (apart_renderField name (apart_renderToken _ false)) hrest

theorem apart_renderType : (entries : List (Text × Json)) → (optional : Bool) →
    Apart (marked (typeUses entries optional))
      (renderType .nullable entries optional) (renderType .nonNull entries optional)
  | [], optional => apart_renderToken .null optional
  | (key, value) :: rest, optional => by
    rw [typeUses, renderType, renderType]
    split
    · exact apart_renderValue value optional
    · exact apart_renderType rest optional

end

mutual

/-- **The annotations of a type** under the two policies. -/
theorem apart_render : (type : Descriptor) → (optional : Bool) →
    Apart (marked (type.uses optional)) (type.render .nullable optional) (type.render .nonNull optional)
  | .plain value, optional => apart_renderValue value optional
  | .record fields, optional => by
    rw [uses, marked_cons, render, render]
    exact apart_renderRecord (apart_markValue .null optional) (apart_renderFields fields)

theorem apart_renderFields : (fields : List Field) →
    AllApart (marked (fieldUses fields)) (renderFields .nullable fields) (renderFields .nonNull fields)
  | [] => .nil
  | .mk name type optional :: rest => by
    rw [fieldUses, marked_append]
    exact .cons (apart_renderField name (apart_render type optional)) (apart_renderFields rest)

end

/-- In an optional place a structure has no mark, but a field of it has one unless it is optional too. -/
example : marked (uses (ofJson (.obj [("a", .str "Foo"), ("b", .str "number"), ("c", .arr [.str "Foo"]),
    ("d", .obj [("type", .str "Foo"), ("isOptional", .bool true)]), ("e", .obj [])])) true) = 3 := by
  decide

end Descriptor

/-! ## Blocks -/

namespace Declaration

open Text Descriptor

/-- The types that are rendered for the parameters; one without a type takes the wildcard. -/
def parameterUses (d : Declaration) : List Use :=
  d.parameters.flatMap fun p => p.type.orWildcard.uses p.optional

/-- The types that are rendered for the declared type. -/
def declaredUses (d : Declaration) : List Use := if d.type.isDeclared then d.type.uses d.isOptional else []

/-- The types that are rendered for the block of a kind. -/
def uses (d : Declaration) : Kind → List Use
  | .moduleKind | .enumKind => []
  | .classKind | .interfaceKind => d.parameterUses
  | .functionKind | .methodKind => d.parameterUses ++ d.declaredUses
  | .propertyKind | .variableKind | .objectKind => d.declaredUses

theorem apart_bracedComment {count : Nat} (tag : Text) {argument other : Text}
    (h : Apart count argument other) :
    Apart count (bracedComment tag argument) (bracedComment tag other) :=
  (h.append_left (tag ++ " \x7b")).append_right "\x7d"

theorem apart_typeComments (tag : Text) (d : Declaration) :
    AllApart (marked d.declaredUses) (d.typeComments .nullable tag) (d.typeComments .nonNull tag) := by
  rw [declaredUses, typeComments, typeComments]
  split
  · exact .singleton (apart_bracedComment tag (apart_render d.type d.isOptional))
  · exact .nil

theorem apart_parameterComments (parameters : List Parameter) :
    AllApart (marked (parameters.flatMap fun p => p.type.orWildcard.uses p.optional))
      (parameters.map (Parameter.comment .nullable)) (parameters.map (Parameter.comment .nonNull)) := by
  induction parameters with
  | nil => exact .nil
  | cons p rest ih =>
    have hp : Apart (marked (p.type.orWildcard.uses p.optional)) (p.comment .nullable) (p.comment .nonNull) :=
      ((apart_bracedComment "@param" (apart_render p.type.orWildcard p.optional)).append_right
        " ").append_right p.name
    rw [List.flatMap_cons, marked_append]
    exact .cons hp ih

/-- Neither the annotations before those of the parameters nor the template has to do with a policy. -/
theorem apart_withParameterComments (d : Declaration) (comments : List Text) :
    AllApart (marked d.parameterUses)
      (d.withParameterComments .nullable comments) (d.withParameterComments .nonNull comments) := by
  have hparameters := (AllApart.refl comments).append (apart_parameterComments d.parameters)
  rw [Nat.zero_add] at hparameters
  exact hparameters.append (.refl _)

theorem apart_statementBlock {count : Nat} (d : Declaration) {comments others : List Text}
    (h : AllApart count comments others) (value : Text) :
    Apart count (d.statementBlock comments value) (d.statementBlock others value) := by
  have hopen := (AllApart.refl [Text.ofString "/**"]).append (h.map_append_left (Text.ofString " * "))
  rw [Nat.zero_add] at hopen
  have hlines := (hopen.append (.refl [Text.ofString "*/"])).append
    (.refl [d.nameToken ++ value ++ Text.ofString ";"])
  exact hlines.joinWith [Text.lineFeed]

/-- **The blocks of a declaration** under the two policies. -/
theorem apart_blockOf (d : Declaration) (kind : Kind) :
    Apart (marked (d.uses kind)) (d.blockOf .nullable kind) (d.blockOf .nonNull kind) := by
  have hfunction : Apart (marked (d.parameterUses ++ d.declaredUses))
      (d.functionBlock .nullable) (d.functionBlock .nonNull) := by
    rw [marked_append]
    exact apart_statementBlock d
      ((apart_withParameterComments d []).append (apart_typeComments "@return" d)) _
  cases kind with
  | moduleKind => exact .refl _
  | classKind => exact apart_statementBlock d (apart_withParameterComments d _) _
  | interfaceKind => exact apart_statementBlock d (apart_withParameterComments d _) _
  | functionKind => exact hfunction
  | methodKind => exact hfunction
  | propertyKind => exact apart_statementBlock d (apart_typeComments "@type" d) _
  | variableKind => exact apart_statementBlock d (apart_typeComments "@type" d) _
  | objectKind => exact apart_statementBlock d (apart_typeComments "@type" d) _
  | enumKind => exact .refl _

end Declaration

/-! ## Documents -/

theorem Text.Apart.getElem? {count : Nat} {first second : Text} (h : Text.Apart count first second)
    (index : Nat) :
    first[index]? = second[index]? ∨
      first[index]? = some (.scalar '?') ∧ second[index]? = some (.scalar '!') := by
  by_cases hfirst : index < first.length
  · have hsecond : index < second.length := h.same.length_eq ▸ hfirst
    have hplace := List.Forall₂.get h.same hfirst hsecond
    rw [List.getElem?_eq_getElem hfirst, List.getElem?_eq_getElem hsecond]
    rcases hplace with heq | ⟨hp, hq⟩
    · exact .inl (congrArg some heq)
    · exact .inr ⟨congrArg some hp, congrArg some hq⟩
  · have hsecond : ¬index < second.length := h.same.length_eq ▸ hfirst
    left
    rw [List.getElem?_eq_none (Nat.le_of_not_lt hfirst), List.getElem?_eq_none (Nat.le_of_not_lt hsecond)]

namespace Document

/-- **The null policy changes marks only.** Documents of a mapping under the two policies fail with the
same error, and without checks they never fail; or they have a block each for every declaration of the
tree that is written. The two blocks of a declaration are equally long and have the same at each place,
but for some places where the first has `?` and the second `!`. There are as many of these as types that
are rendered for the block in a place that is not optional, the four strings that have no mark apart. -/
theorem null_policy_changes_marks (settings : Settings) (root : Json.Mapping) :
    (settings.validateInput = true ∧
      ∃ error, ∀ policy, (ofJson policy settings root.value).outcome = .error error) ∨
    ∃ (tree : Node) (nullable nonNull : Document),
      (Node.ingest settings.validateInput root.value).outcome = .ok tree ∧
      (ofJson .nullable settings root.value).outcome = .ok nullable ∧
      (ofJson .nonNull settings root.value).outcome = .ok nonNull ∧
      nullable.blocks.length = tree.written.length ∧
      nonNull.blocks.length = tree.written.length ∧
      ∀ (index : Nat) (kind : Kind) (d : Declaration), tree.written[index]? = some (kind, d) →
        ∃ first second : Text,
          nullable.blocks[index]? = some first ∧ nonNull.blocks[index]? = some second ∧
          first.length = second.length ∧
          (∀ place : Nat, first[place]? = second[place]? ∨
            first[place]? = some (.scalar '?') ∧ second[place]? = some (.scalar '!')) ∧
          Text.marksApart first second = (d.uses kind).countP Descriptor.Use.isMarked := by
  cases houtcome : (Node.ingest settings.validateInput root.value).outcome with
  | error error =>
    left
    refine ⟨?_, error, fun policy => ofJson_of_error policy settings houtcome⟩
    by_contra hfree
    rw [Bool.eq_false_of_not_eq_true hfree, Json.Mapping.value, Node.ingest_false_obj] at houtcome
    cases houtcome
  | ok tree =>
    have hblocks (policy : NullPolicy) : (ofTree policy settings tree).blocks =
        tree.written.map fun entry => entry.2.blockOf policy entry.1 := Node.blocks_visits policy tree
    refine .inr ⟨tree, _, _, rfl, ofJson_of_ok .nullable settings houtcome,
      ofJson_of_ok .nonNull settings houtcome, ?_, ?_, ?_⟩
    · rw [hblocks, List.length_map]
    · rw [hblocks, List.length_map]
    · intro index kind d hwritten
      have hapart := d.apart_blockOf kind
      refine ⟨d.blockOf .nullable kind, d.blockOf .nonNull kind, ?_, ?_, hapart.same.length_eq,
        hapart.getElem?, hapart.marks⟩
      · rw [hblocks, List.getElem?_map, hwritten, Option.map_some]
      · rw [hblocks, List.getElem?_map, hwritten, Option.map_some]

end Document

end Externs
