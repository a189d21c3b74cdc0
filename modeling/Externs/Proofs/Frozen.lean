import Externs.Document.Session
import Externs.Proofs.CheckedRuns
import Mathlib.Data.List.Induction
import Mathlib.Data.List.TakeWhile

/-!
# Documents stay as they were made

Blocks and plain text are fixed when a document is made, and its code when it is first asked for. What is
assigned to settings or to nodes later on changes neither.

* `Document.Made`: the documents right after they were made;
* `Document.inForce`: the settings in force after some operations;
* `Document.blocks_after`, `Document.blocks_run`: one operation, and all of them, leave the blocks alone;
* `Document.current_run`: after operations the settings in force are the current ones;
* `Document.codeBy_run`: the code is that of the first time it was asked for;
* `Document.made_is_frozen`: all answers of a session.
-/

namespace Externs.Document

set_option autoImplicit false

/-- A document right after it was made, from a tree or from a value. -/
inductive Made : Document → Prop where
  | ofTree (policy : NullPolicy) (settings : Settings) (tree : Node) : Made (ofTree policy settings tree)
  | ofJson {policy : NullPolicy} {settings : Settings} {value : Json} {document : Document}
      (h : (ofJson policy settings value).outcome = .ok document) : Made document

theorem Made.kept {document : Document} (h : Made document) : document.kept = none := by
  cases h with
  | ofTree policy settings tree => rfl
  | @ofJson policy settings value _ h =>
    cases houtcome : (Node.ingest settings.validateInput value).outcome with
    | error error =>
      rw [ofJson_of_error policy settings houtcome] at h
      cases h
    | ok tree =>
      rw [ofJson_of_ok policy settings houtcome] at h
      rw [← Except.ok.inj h]
      rfl

/-- The value that an operation assigns to a setting. -/
def Operation.assigned? (setting : SettingName) : Operation → Option Json
  | .assignSetting other value => if other = setting then some value else none
  | _ => none

def Operation.isCode : Operation → Bool
  | .code => true
  | _ => false

/-- The settings in force after operations: each has the value that was assigned to it last. -/
def inForce (values : SettingName → Json) (operations : List Operation) (setting : SettingName) : Json :=
  (operations.filterMap (Operation.assigned? setting)).getLast?.getD (values setting)

/-- The operations before the code is first asked for. -/
def beforeCode (operations : List Operation) : List Operation :=
  operations.takeWhile fun operation => !operation.isCode

theorem beforeCode_append_cons (first second : List Operation) :
    beforeCode (first ++ .code :: second) = beforeCode first := by
  induction first with
  | nil => rfl
  | cons operation rest ih =>
    unfold beforeCode at ih ⊢
    rw [List.cons_append, List.takeWhile_cons, List.takeWhile_cons, ih]

theorem beforeCode_append_of_any {first : List Operation} (h : first.any Operation.isCode = true)
    (second : List Operation) : beforeCode (first ++ second) = beforeCode first := by
  induction first with
  | nil => cases h
  | cons operation rest ih =>
    unfold beforeCode at ih ⊢
    cases hcode : operation.isCode with
    | true => simp [hcode]
    | false =>
      have hrest : rest.any Operation.isCode = true := by simpa [hcode] using h
      simp [hcode, ih hrest]

theorem beforeCode_of_not_any {operations : List Operation}
    (h : operations.any Operation.isCode = false) : beforeCode operations = operations := by
  unfold beforeCode
  rw [List.takeWhile_eq_self_iff]
  intro operation hmem
  have hcode := List.any_eq_false.mp h operation hmem
  simpa using hcode

/-! ## One operation -/

theorem blocks_after (format : Formatter) (document : Document) (operation : Operation) :
    (document.after format operation).blocks = document.blocks := by
  cases operation <;> rfl

theorem strict_after (format : Formatter) (document : Document) (operation : Operation) :
    (document.after format operation).strict = document.strict := by
  cases operation <;> rfl

theorem current_after (format : Formatter) (document : Document) (operation : Operation)
    (setting : SettingName) :
    (document.after format operation).current setting =
      (operation.assigned? setting).getD (document.current setting) := by
  cases operation with
  | assignSetting other value =>
    by_cases hsame : setting = other
    · simp [after, assignSetting, Operation.assigned?, hsame]
    · simp [after, assignSetting, Operation.assigned?, hsame, Ne.symm hsame]
  | _ => rfl

theorem kept_after_code (format : Formatter) (document : Document) :
    (document.after format .code).kept = some (document.codeBy format) := rfl

theorem kept_after_of_not_code (format : Formatter) (document : Document) {operation : Operation}
    (h : operation.isCode = false) : (document.after format operation).kept = document.kept := by
  cases operation with
  | code => cases h
  | _ => rfl

/-! ## All operations -/

section Run

variable (format : Formatter) (start : Document)

theorem run_concat (operations : List Operation) (operation : Operation) :
    start.run format (operations ++ [operation]) = (start.run format operations).after format operation := by
  simp [run]

theorem blocks_run (operations : List Operation) : (start.run format operations).blocks = start.blocks := by
  induction operations using List.reverseRecOn with
  | nil => rfl
  | append_singleton operations operation ih => rw [run_concat, blocks_after, ih]

theorem strict_run (operations : List Operation) : (start.run format operations).strict = start.strict := by
  induction operations using List.reverseRecOn with
  | nil => rfl
  | append_singleton operations operation ih => rw [run_concat, strict_after, ih]

theorem render_run (operations : List Operation) : (start.run format operations).render = start.render := by
  unfold render
  rw [blocks_run, strict_run]

theorem current_run (operations : List Operation) :
    (start.run format operations).current = inForce start.current operations := by
  funext setting
  induction operations using List.reverseRecOn with
  | nil => rfl
  | append_singleton operations operation ih =>
    rw [run_concat, current_after, ih]
    unfold inForce
    cases hassigned : operation.assigned? setting with
    | none => simp [List.filterMap_append, hassigned]
    | some value => simp [List.filterMap_append, hassigned]

/-- The code that a session gives: the text at the start, formatted by the settings in force when the code
was first asked for. -/
def firstCode (operations : List Operation) : Text :=
  finish format (inForce start.current (beforeCode operations)) start.render

variable {start} (h : start.kept = none)
include h

/-- Nothing is kept until the code is asked for, and then it is kept for good. -/
theorem kept_run (operations : List Operation) :
    (start.run format operations).kept =
      if operations.any Operation.isCode then some (firstCode format start operations) else none := by
  induction operations using List.reverseRecOn with
  | nil => exact h
  | append_singleton operations operation ih =>
    rw [run_concat]
    cases hcode : operation.isCode with
    | true =>
      obtain rfl : operation = .code := by cases operation <;> first | rfl | cases hcode
      have hbefore := beforeCode_append_cons operations []
      rw [kept_after_code, codeBy, ih, render_run, current_run]
      cases hany : operations.any Operation.isCode with
      | true => simp [firstCode, hbefore, Operation.isCode]
      | false =>
        have hall := beforeCode_of_not_any hany
        simp [firstCode, hbefore, hall, Operation.isCode]
    | false =>
      rw [kept_after_of_not_code format _ hcode, ih]
      cases hany : operations.any Operation.isCode with
      | true =>
        have hbefore := beforeCode_append_of_any hany [operation]
        simp [firstCode, hbefore, hany]
      | false => simp [hany, hcode]

/-- **The code does not change** once it was asked for. -/
theorem codeBy_run (operations : List Operation) :
    (start.run format operations).codeBy format = firstCode format start operations := by
  unfold codeBy
  rw [kept_run format h, render_run, current_run]
  cases hany : operations.any Operation.isCode with
  | true => rfl
  | false =>
    have hall := beforeCode_of_not_any hany
    simp [firstCode, hall]

end Run

/-! ## Answers -/

theorem answers_getElem? (format : Formatter) (start : Document) (operations : List Operation)
    (index : Nat) :
    (start.answers format operations)[index]? =
      operations[index]?.map ((start.run format (operations.take index)).answer format) := by
  induction operations generalizing start index with
  | nil => simp [answers]
  | cons operation rest ih =>
    cases index with
    | zero => rfl
    | succ index => simpa [answers, run] using ih (start.after format operation) index

/-- **A document is frozen when it is made, and its code when it is first asked for.** Whatever is done
with a document, each time its blocks or its text are read they are those that it was made with. Each time
its code is read it is the same: the text that it was made with, formatted by the settings that were in
force when the code was first asked for, or not formatted if they said so. This is so for any formatter. -/
theorem made_is_frozen (format : Formatter) {start : Document} (h : start.Made)
    (operations : List Operation) (index : Nat) :
    (operations[index]? = some .blocks →
      (start.answers format operations)[index]? = some (.blocks start.blocks)) ∧
    (operations[index]? = some .render →
      (start.answers format operations)[index]? = some (.text start.render)) ∧
    (operations[index]? = some .code →
      (start.answers format operations)[index]? = some (.text
        (let values := inForce start.current (beforeCode operations)
        if (values .beautify).truthy then format (values .indentSize) start.render else start.render))) := by
  have hanswer := answers_getElem? format start operations index
  refine ⟨fun hread => ?_, fun hread => ?_, fun hread => ?_⟩
  · rw [hanswer, hread, Option.map_some, answer, blocks_run]
  · rw [hanswer, hread, Option.map_some, answer, render_run]
  · have hsplit : operations = operations.take index ++ .code :: operations.drop (index + 1) := by
      obtain ⟨hindex, hget⟩ := List.getElem?_eq_some_iff.mp hread
      rw [← hget, List.getElem_cons_drop, List.take_append_drop]
    have hbefore : beforeCode operations = beforeCode (operations.take index) := by
      conv_lhs => rw [hsplit]
      exact beforeCode_append_cons _ _
    rw [hanswer, hread, Option.map_some, answer, codeBy_run format h.kept, firstCode, hbefore]
    rfl

/-- The document of a class without anything in it. -/
def frozenSample : Document :=
  ofTree .nullable {} ⟨Declaration.ofEntries [], [],
    [("C", ⟨Declaration.ofEntries [("kind", .str "Class"), ("qualifiedName", .str "C")], [], []⟩)]⟩

/-- The code is read twice, with other settings and another kind of node the second time. -/
def frozenOperations : List Operation :=
  [.assignSetting .indentSize (.int 4), .code, .assignSetting .beautify (.bool false),
    .assignNode [(.children, "C")] .kind (.str "Enum"), .build .nonNull {} .null, .code, .blocks]

theorem made_is_frozen_sample :
    frozenSample.Made ∧
      (frozenSample.answers layout frozenOperations)[1]? = some (.text (layout (.int 4) frozenSample.render)) ∧
      (frozenSample.answers layout frozenOperations)[5]? = some (.text (layout (.int 4) frozenSample.render)) ∧
      (frozenSample.answers layout frozenOperations)[6]? = some (.blocks frozenSample.blocks) := by
  have hmade : frozenSample.Made := .ofTree _ _ _
  exact ⟨hmade, (made_is_frozen layout hmade frozenOperations 1).2.2 rfl,
    (made_is_frozen layout hmade frozenOperations 5).2.2 rfl,
    (made_is_frozen layout hmade frozenOperations 6).1 rfl⟩

end Externs.Document
