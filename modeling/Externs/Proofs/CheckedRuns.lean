import Externs.Proofs.Reference
import Externs.Proofs.Validation

/-!
# Runs with and without checks

A pass with checks and a pass without them take the same steps. So the first does what the second does,
or a check fails on the way; it has then sent the first notices of the second, and no others.

* `Ingestion.CutsShort`: one pass does what another does, or fails on the way;
* `Ingestion.CutsShort.bind`: two such passes may be followed by two more;
* `Node.cutsShort_act`, `Node.cutsShort_perform`: one step with its check, and all steps;
* `Node.ingest_true_eq_iff`: the two passes over a mapping are the same just if no rule is broken;
* `Document.validation_keeps_results`: validation changes no tree, no notice and no document.
-/

namespace Externs

set_option autoImplicit false

namespace Ingestion

variable {α β : Type}

/-- `first` does all that `second` does, or it fails after some of the notices that `second` sends. -/
def CutsShort (first second : Ingestion α) : Prop :=
  first = second ∨
    ∃ error, first.outcome = .error error ∧ first.notices <+: second.notices

theorem CutsShort.refl (pass : Ingestion α) : CutsShort pass pass := .inl rfl

theorem notices_prefix_bind (pass : Ingestion α) (next : α → Ingestion β) :
    pass.notices <+: (pass >>= next).notices := by
  cases h : pass.outcome with
  | ok value =>
    rw [bind_of_ok h]
    exact List.prefix_append _ _
  | error error =>
    have hsame : (pass >>= next).notices = pass.notices := by rw [bind_of_error h]
    exact hsame ▸ List.prefix_rfl

/-- What comes after a pass that is cut short does not matter. -/
theorem CutsShort.bind {first second : Ingestion α} {next other : α → Ingestion β}
    (h : CutsShort first second) (hnext : ∀ value, CutsShort (next value) (other value)) :
    CutsShort (first >>= next) (second >>= other) := by
  rcases h with rfl | ⟨error, herror, hprefix⟩
  · cases houtcome : first.outcome with
    | error error =>
      left
      rw [bind_of_error houtcome, bind_of_error houtcome]
    | ok value =>
      rw [bind_of_ok houtcome, bind_of_ok houtcome]
      rcases hnext value with heq | ⟨error, herror, hprefix⟩
      · left
        rw [heq]
      · exact .inr ⟨error, herror, (List.prefix_append_right_inj _).mpr hprefix⟩
  · right
    rw [bind_of_error herror]
    exact ⟨error, rfl, hprefix.trans (notices_prefix_bind second other)⟩

end Ingestion

namespace Node

open Ingestion Json

/-! ## Steps with and without checks -/

theorem cutsShort_act (step : Step) : CutsShort (step.act true) (step.act false) := by
  cases step with
  | node stop =>
    change CutsShort (require (check (pathOf stop.keys) stop.entries)) (pure ())
    cases hcheck : check (pathOf stop.keys) stop.entries with
    | ok _ => exact .inl rfl
    | error error => exact .inr ⟨error, rfl, List.nil_prefix⟩
  | value keys typeName => exact .refl _
  | member keys typeName => exact .refl _

theorem cutsShort_perform (steps : List Step) : CutsShort (perform true steps) (perform false steps) := by
  induction steps with
  | nil => exact .refl _
  | cons step rest ih =>
    rw [perform_cons, perform_cons]
    exact (cutsShort_act step).bind fun _ => ih

theorem cutsShort_ingest (entries : Assoc Json) :
    CutsShort (ingest true (.obj entries)) (ingest false (.obj entries)) := by
  rw [ingest_obj, ingest_obj]
  exact (cutsShort_perform (steps [] entries)).bind fun _ => .refl _

/-! ## Which of the two it is -/

theorem ingest_true_eq_ok_iff (entries : Assoc Json) (tree : Node) :
    (ingest true (.obj entries)).outcome = .ok tree ↔
      (∀ stop ∈ visited [] entries, breaches stop = []) ∧ tree = ofEntries entries := by
  have hnone : (visited [] entries).findSome? firstBreach? = none ↔
      ∀ stop ∈ visited [] entries, breaches stop = [] := by
    simp only [List.findSome?_eq_none_iff, firstBreach?_eq_none_iff]
  rw [ingest_true_outcome, findSome?_fault?, ← hnone]
  cases (visited [] entries).findSome? firstBreach? with
  | some error => simp
  | none => simp [eq_comm]

theorem ingest_true_eq_iff (entries : Assoc Json) :
    ingest true (.obj entries) = ingest false (.obj entries) ↔
      ∀ stop ∈ visited [] entries, breaches stop = [] := by
  have hfree : (ingest false (.obj entries)).outcome = .ok (ofEntries entries) := by
    rw [ingest_false_obj]
  constructor
  · intro heq
    rw [← heq] at hfree
    exact ((ingest_true_eq_ok_iff entries _).mp hfree).1
  · intro hsound
    have hok := (ingest_true_eq_ok_iff entries (ofEntries entries)).mpr ⟨hsound, rfl⟩
    rcases cutsShort_ingest entries with heq | ⟨error, herror, _⟩
    · exact heq
    · rw [hok] at herror
      cases herror

/-- A pass over a mapping that gives a tree gives the one of the mapping. -/
theorem eq_ofEntries_of_ingest {validate : Bool} {entries : Assoc Json} {tree : Node}
    (h : (ingest validate (.obj entries)).outcome = .ok tree) : tree = ofEntries entries := by
  cases validate with
  | true => exact ((ingest_true_eq_ok_iff entries tree).mp h).2
  | false =>
    rw [ingest_false_obj] at h
    exact (Except.ok.inj h).symm

theorem validate_of_ingest_error {validate : Bool} {entries : Assoc Json} {error : Malformed}
    (h : (ingest validate (.obj entries)).outcome = .error error) : validate = true := by
  cases validate with
  | true => rfl
  | false =>
    rw [ingest_false_obj] at h
    cases h

end Node

/-! ## Documents with and without checks -/

namespace Document

theorem ofJson_of_ok (policy : NullPolicy) (settings : Settings) {value : Json} {tree : Node}
    (h : (Node.ingest settings.validateInput value).outcome = .ok tree) :
    (ofJson policy settings value).outcome = .ok (ofTree policy settings tree) := by
  rw [ofJson, Ingestion.bind_of_ok h]
  rfl

theorem ofJson_of_error (policy : NullPolicy) (settings : Settings) {value : Json} {error : Malformed}
    (h : (Node.ingest settings.validateInput value).outcome = .error error) :
    (ofJson policy settings value).outcome = .error error := by
  rw [ofJson, Ingestion.bind_of_error h]

/-- Without checks, entries with the same tree give the same documents. -/
theorem unchecked_of_ofEntries_eq {first second : Assoc Json} (h : Node.ofEntries first = Node.ofEntries second) :
    ∃ tree, (Node.ingest false (.obj first)).outcome = .ok tree ∧
      (Node.ingest false (.obj second)).outcome = .ok tree ∧
      ∀ policy settings, settings.validateInput = false →
        (ofJson policy settings (.obj first)).outcome = .ok (ofTree policy settings tree) ∧
          (ofJson policy settings (.obj second)).outcome = .ok (ofTree policy settings tree) := by
  have hfirst : (Node.ingest false (.obj first)).outcome = .ok (Node.ofEntries second) := by
    rw [Node.ingest_false_obj, h]
  have hsecond : (Node.ingest false (.obj second)).outcome = .ok (Node.ofEntries second) := by
    rw [Node.ingest_false_obj]
  refine ⟨Node.ofEntries second, hfirst, hsecond, fun policy settings hfree => ?_⟩
  rw [← hfree] at hfirst hsecond
  exact ⟨ofJson_of_ok policy settings hfirst, ofJson_of_ok policy settings hsecond⟩

/-- **Validation changes no result.** A mapping that is not checked always gives a tree. Checked, it
gives the same tree with the same notices, and does so just if no node breaks a rule; otherwise it fails
after a leading part of these notices. So a document that is made with checks fails, with the same error
as the pass, or it has the blocks and the text of the document without checks, which are those of a
document made from the tree. -/
theorem validation_keeps_results (policy : NullPolicy) (settings : Settings) (root : Assoc Json) :
    ∃ tree free,
      (Node.ingest false (.obj root)).outcome = .ok tree ∧
      (Node.ingest true (.obj root) = Node.ingest false (.obj root) ∨
        ∃ error, (Node.ingest true (.obj root)).outcome = .error error ∧
          (Node.ingest true (.obj root)).notices <+: (Node.ingest false (.obj root)).notices) ∧
      (Node.ingest true (.obj root) = Node.ingest false (.obj root) ↔
        ∀ stop ∈ Node.visited [] root, Node.breaches stop = []) ∧
      (ofJson policy { settings with validateInput := false } (.obj root)).outcome = .ok free ∧
      free.blocks = (ofTree policy settings tree).blocks ∧
      free.render = (ofTree policy settings tree).render ∧
      ((∃ error, (Node.ingest true (.obj root)).outcome = .error error ∧
          (ofJson policy { settings with validateInput := true } (.obj root)).outcome = .error error) ∨
        ∃ checked,
          (ofJson policy { settings with validateInput := true } (.obj root)).outcome = .ok checked ∧
          checked.blocks = free.blocks ∧ checked.render = free.render) := by
  have htree : (Node.ingest false (.obj root)).outcome = .ok (Node.ofEntries root) := by
    rw [Node.ingest_false_obj]
  have hfree := ofJson_of_ok policy { settings with validateInput := false } htree
  refine ⟨Node.ofEntries root, _, htree, Node.cutsShort_ingest root, Node.ingest_true_eq_iff root,
    hfree, rfl, rfl, ?_⟩
  rcases Node.cutsShort_ingest root with heq | ⟨error, herror, _⟩
  · right
    rw [← heq] at htree
    exact ⟨_, ofJson_of_ok policy { settings with validateInput := true } htree, rfl, rfl⟩
  · exact .inl ⟨error, herror, ofJson_of_error policy { settings with validateInput := true } herror⟩

end Document

end Externs
