import Externs.Proofs.Marks
import Externs.Proofs.OneLine

/-!
# Types that were ingested

Ingestion turns mappings into structures, at every depth to which fields lead. Such a type is rendered field
by field, and its annotation is that of the value from which it came.

* `Descriptor.Reaches`: the types to which the fields of a type lead;
* `Descriptor.IsIngested`: no mapping that was not ingested is among them;
* `Descriptor.isIngested_ofJson`: so it is for every type that comes from a value;
* `Descriptor.renderByFields?`: the renderer without its part for mappings that were not ingested;
* `Descriptor.renderByFields?_of_isIngested`: it is all that an ingested type needs;
* `Descriptor.raw_and_ingested_agree`: a value and its type are rendered alike.
-/

namespace Externs.Descriptor

set_option autoImplicit false

/-! ## Types to which fields lead -/

/-- Fields lead from a type to another. -/
inductive Reaches : Descriptor → Descriptor → Prop where
  | refl (type : Descriptor) : Reaches type type
  | field {fields : List Field} {name : Text} {type target : Descriptor} {optional : Bool}
      (hmem : Field.mk name type optional ∈ fields) (h : Reaches type target) : Reaches (.record fields) target

/-- Every mapping to which fields lead is a structure that was ingested. -/
def IsIngested (type : Descriptor) : Prop := ∀ entries, ¬type.Reaches (.plain (.obj entries))

theorem IsIngested.of_mem {fields : List Field} (h : IsIngested (.record fields)) {name : Text}
    {type : Descriptor} {optional : Bool} (hmem : Field.mk name type optional ∈ fields) : type.IsIngested :=
  fun entries hreach => h entries (.field hmem hreach)

theorem ofJson_of_entries? {value : Json} (h : value.entries? = none) : ofJson value = .plain value := by
  cases value with
  | obj entries => cases h
  | _ => rfl

theorem exists_ofJson_of_mem {entries : List (Text × Json)} {name : Text} {type : Descriptor} {optional : Bool}
    (h : Field.mk name type optional ∈ fieldsOf entries) : ∃ value, type = ofJson value := by
  induction entries with
  | nil => cases h
  | cons entry rest ih =>
    obtain ⟨key, value⟩ := entry
    cases value with
    | obj below =>
      rcases List.mem_cons.mp h with heq | hmem
      · cases heq
        exact ⟨_, typeOf_eq below⟩
      · exact ih hmem
    | _ =>
      rcases List.mem_cons.mp h with heq | hmem
      · cases heq
        exact ⟨_, (ofJson_of_entries? rfl).symm⟩
      · exact ih hmem

theorem exists_ofJson_of_reaches {type target : Descriptor} (h : type.Reaches target)
    (htype : ∃ value, type = ofJson value) : ∃ value, target = ofJson value := by
  induction h with
  | refl => exact htype
  | field hmem _ ih =>
    obtain ⟨value, hvalue⟩ := htype
    cases value with
    | obj entries =>
      cases hvalue
      exact ih (exists_ofJson_of_mem hmem)
    | _ => cases hvalue

theorem isIngested_ofJson (value : Json) : (ofJson value).IsIngested := by
  intro entries hreach
  -- A mapping that was not ingested would have to come from a value, which no mapping does unchanged.
  obtain ⟨source, hsource⟩ := exists_ofJson_of_reaches hreach ⟨value, rfl⟩
  cases source <;> cases hsource

theorem isIngested_orWildcard {type : Descriptor} (h : type.IsIngested) : type.orWildcard.IsIngested := by
  rw [orWildcard]
  split
  · exact h
  · exact isIngested_ofJson (.str "*")

/-! ## Rendering by fields -/

mutual

/-- The annotation of a type, by a renderer that gives up on mappings that were not ingested. -/
def renderByFields? (policy : NullPolicy) : Descriptor → Bool → Option Text
  | .plain (.obj _), _ => none
  | .plain (.arr items), optional => some (renderUnion policy items optional)
  | .plain value, optional => some (renderToken policy value optional)
  | .record fields, optional => (renderAllByFields? policy fields).map (renderRecord policy · optional)

def renderAllByFields? (policy : NullPolicy) : List Field → Option (List Text)
  | [] => some []
  | .mk name type optional :: rest => do
    let annotation ← renderByFields? policy type optional
    let others ← renderAllByFields? policy rest
    return renderField name annotation :: others

end

mutual

/-- **Rendering by fields** is all that an ingested type needs. -/
theorem renderByFields?_of_isIngested (policy : NullPolicy) : (type : Descriptor) → type.IsIngested →
    (optional : Bool) → type.renderByFields? policy optional = some (type.render policy optional)
  | .plain value, h, optional => by
    cases value with
    | obj entries => exact absurd (.refl _) (h entries)
    | _ => rfl
  | .record fields, h, optional => by
    rw [renderByFields?, render,
      renderAllByFields?_of_isIngested policy fields fun _ _ _ hmem => h.of_mem hmem, Option.map_some]

theorem renderAllByFields?_of_isIngested (policy : NullPolicy) : (fields : List Field) →
    (∀ name type optional, Field.mk name type optional ∈ fields → type.IsIngested) →
    renderAllByFields? policy fields = some (renderFields policy fields)
  | [], _ => rfl
  | .mk name type optional :: rest, h => by
    have htype := renderByFields?_of_isIngested policy type (h name type optional List.mem_cons_self) optional
    have hrest := renderAllByFields?_of_isIngested policy rest
      fun name type optional hmem => h name type optional (List.mem_cons_of_mem _ hmem)
    rw [renderAllByFields?, htype, hrest]
    rfl

end

/-! ## Places where types are rendered -/

mutual

theorem reaches_of_mem_uses : (type : Descriptor) → type.IsIngested → (optional : Bool) → (use : Use) →
    use ∈ type.uses optional → type.Reaches use.type
  | .plain value, h, optional, use, hmem => by
    cases value with
    | obj entries => exact absurd (.refl _) (h entries)
    | _ =>
      rw [List.mem_singleton.mp hmem]
      exact .refl _
  | .record fields, h, optional, use, hmem => by
    rcases List.mem_cons.mp hmem with rfl | hmem
    · exact .refl _
    · obtain ⟨name, type, place, hfield, hreach⟩ :=
        reaches_of_mem_fieldUses fields (fun _ _ _ hfield => h.of_mem hfield) use hmem
      exact .field hfield hreach

theorem reaches_of_mem_fieldUses : (fields : List Field) →
    (∀ name type optional, Field.mk name type optional ∈ fields → type.IsIngested) → (use : Use) →
    use ∈ fieldUses fields →
    ∃ name type optional, Field.mk name type optional ∈ fields ∧ type.Reaches use.type
  | [], _, _, hmem => by cases hmem
  | .mk name type optional :: rest, h, use, hmem => by
    rcases List.mem_append.mp hmem with hhere | hlater
    · exact ⟨name, type, optional, List.mem_cons_self, reaches_of_mem_uses type
        (h name type optional List.mem_cons_self) optional use hhere⟩
    · obtain ⟨name, type, optional, hfield, hreach⟩ := reaches_of_mem_fieldUses rest
        (fun name type optional hfield => h name type optional (List.mem_cons_of_mem _ hfield)) use hlater
      exact ⟨name, type, optional, List.mem_cons_of_mem _ hfield, hreach⟩

end

theorem Reaches.trans {first second third : Descriptor} (h : first.Reaches second)
    (h' : second.Reaches third) : first.Reaches third := by
  induction h with
  | refl => exact h'
  | field hmem _ ih => exact .field hmem (ih h')

theorem isIngested_of_mem_uses {type : Descriptor} (h : type.IsIngested) {optional : Bool} {use : Use}
    (hmem : use ∈ type.uses optional) : use.type.IsIngested :=
  fun entries hreach => h entries ((reaches_of_mem_uses type h optional use hmem).trans hreach)

/-! ## Values and their types -/

/-- The annotation of a type in a context that may say whether the place is optional. -/
def renderIn (policy : NullPolicy) (type : Descriptor) (context : Option Bool) : Text :=
  type.render policy (context.getD false)

theorem markFor_ofJson (policy : NullPolicy) (value : Json) (optional : Bool) :
    policy.markFor (ofJson value) optional = policy.markFor (.plain value) optional := by
  cases value <;> rfl

theorem plainText_ofJson (value : Json) : (ofJson value).plainText = plainText (.plain value) := by
  cases value <;> rfl

/-- **A value and its type are rendered alike**, in every context and under either policy: the value by the
part of the renderer for mappings that were not ingested, the type without it. They have the same mark and
the same tokens too. -/
theorem raw_and_ingested_agree (policy : NullPolicy) (value : Json) :
    (∀ context, renderIn policy (.plain value) context = renderIn policy (ofJson value) context) ∧
      (∀ context : Option Bool, (ofJson value).renderByFields? policy (context.getD false) =
        some (renderIn policy (.plain value) context)) ∧
      (∀ optional, policy.markFor (.plain value) optional = policy.markFor (ofJson value) optional) ∧
      plainText (.plain value) = (ofJson value).plainText := by
  have hrender (optional : Bool) :
      render policy (.plain value) optional = (ofJson value).render policy optional :=
    (render_ofJson policy value optional).symm
  refine ⟨fun context => hrender _, ?_, fun optional => (markFor_ofJson policy value optional).symm,
    (plainText_ofJson value).symm⟩
  intro context
  rw [renderIn, hrender]
  exact renderByFields?_of_isIngested policy _ (isIngested_ofJson value) _

end Externs.Descriptor
