import Externs.Command
import Externs.Proofs.ShownPaths

/-!
# Files after a failed run

A run of the command that does not end well leaves all files as they were, whatever formatter it uses, but for
one case: code that cannot be encoded empties the file into which it was to be written.

* `Utf8.encode?_eq_none_iff`: what cannot be encoded;
* `Command.BreaksOff`: the runs that break off while they write;
* `Command.writtenAt_of_breaksOff`, `Command.files_run_of_failure`: what these and other failed runs do;
* `Command.contentAt_run_of_failure`: the content of each path after a failed run.
-/

namespace Externs

set_option autoImplicit false

theorem Utf8.encode?_eq_none_iff (t : Text) :
    encode? t = none ↔ ∃ index, CodePoint.surrogate index ∈ t := by
  induction t with
  | nil => simp [encode?]
  | cons p rest ih =>
    cases p with
    | scalar c => simp [encode?, ih]
    | surrogate index => simp [encode?]

namespace Command

/-- The run comes to write its code into the file of a path, at a place where it can be written, and a
lone surrogate is in the code. -/
def BreaksOff (format : Document.PartialFormatter) (surroundings : Surroundings) (arguments : List Text)
    (output : Text) (place : FilePlace) : Prop :=
  ∃ invocation settings code,
    Invocation.ofArguments surroundings.files arguments = .ok (some invocation) ∧
    invocation.output = some output ∧
    settingsOf surroundings invocation = .ok settings ∧
    (compile format surroundings.files invocation.source settings).2 = .ok code ∧
    surroundings.files.placeToWrite output = .ok place ∧
    ∃ index, CodePoint.surrogate index ∈ code

section

variable {format : Document.PartialFormatter} {surroundings : Surroundings} {arguments : List Text}
  {output : Text} {place : FilePlace}

theorem BreaksOff.placeToWrite (h : BreaksOff format surroundings arguments output place) :
    surroundings.files.placeToWrite output = .ok place := by
  obtain ⟨_, _, _, _, _, _, _, hplace, _⟩ := h
  exact hplace

/-- Code that cannot be encoded empties the file that it was to be written to. -/
theorem deliver_of_surrogate {code : Text} (hplace : surroundings.files.placeToWrite output = .ok place)
    (hcode : ∃ index, CodePoint.surrogate index ∈ code) (notices : List Notice) :
    deliver surroundings notices (some output) code =
      .broken (surroundings.files.write place []) notices .unencodableOutput := by
  rw [deliver]
  simp only [hplace, (Utf8.encode?_eq_none_iff code).mpr hcode]

/-- Code that is not delivered changes no file, but for that case. -/
theorem files_deliver {notices : List Notice} {target : Option Text} {code : Text}
    (h : (deliver surroundings notices target code).exitCode ≠ 0) :
    (deliver surroundings notices target code).files = surroundings.files ∨
      ∃ path place, target = some path ∧ surroundings.files.placeToWrite path = .ok place ∧
        ∃ index, CodePoint.surrogate index ∈ code := by
  cases target with
  | none =>
    left
    cases hcode : Utf8.encode? (onStandardOutput surroundings.outputTerminal code) <;>
      simp only [deliver, hcode] <;> rfl
  | some path =>
    cases hplace : surroundings.files.placeToWrite path with
    | error problem =>
      left
      rw [deliver]
      simp only [hplace]
      rfl
    | ok place =>
      cases hcode : Utf8.encode? code with
      | some bytes =>
        rw [deliver] at h
        simp only [hplace, hcode] at h
        exact absurd rfl h
      | none => exact .inr ⟨path, place, rfl, hplace, (Utf8.encode?_eq_none_iff code).mp hcode⟩

theorem files_fail (notices : List Notice) (source : Text) (fault : SourceFault) :
    (fail surroundings notices source fault).files = surroundings.files := by
  cases fault <;> rfl

theorem files_run_of_breaksOff (h : BreaksOff format surroundings arguments output place) :
    (run format surroundings arguments).files = surroundings.files.write place [] := by
  obtain ⟨invocation, settings, code, hcall, houtput, hsettings, hcode, hplace, hsurrogate⟩ := h
  rw [run, hcall]
  simp only [execute, hsettings, hcode, houtput, deliver_of_surrogate hplace hsurrogate]
  rfl

theorem files_run_of_failure (h : (run format surroundings arguments).exitCode ≠ 0) :
    (run format surroundings arguments).files = surroundings.files ∨
      ∃ output place, BreaksOff format surroundings arguments output place := by
  rw [run] at h ⊢
  cases hcall : Invocation.ofArguments surroundings.files arguments with
  | error refusal => cases refusal <;> exact .inl rfl
  | ok call =>
    cases call with
    | none => exact .inl rfl
    | some invocation =>
      simp only [hcall, execute] at h ⊢
      cases hsettings : settingsOf surroundings invocation with
      | error faults => exact .inl rfl
      | ok settings =>
        cases hcode : (compile format surroundings.files invocation.source settings).2 with
        | error fault =>
          left
          simp only [hcode]
          exact files_fail _ _ fault
        | ok code =>
          simp only [hsettings, hcode] at h ⊢
          rcases files_deliver h with hkept | ⟨output, place, houtput, hplace, hsurrogate⟩
          · exact .inl hkept
          · exact .inr ⟨output, place, invocation, settings, code, hcall, houtput, hsettings, hcode,
              hplace, hsurrogate⟩

/-- A run that broke off leaves an empty file at its place. -/
theorem writtenAt_of_breaksOff (h : BreaksOff format surroundings arguments output place) :
    surroundings.files.WrittenAt place [] (run format surroundings arguments).files := by
  rw [files_run_of_breaksOff h]
  exact FileTree.writtenAt_write h.placeToWrite []

end

/-- **Files after a failed run.** Whatever the formatter does, a failed run that does not break off while it
writes leaves all files as they were. So the content or the absence of any path stays as it was, with one
exception: the run breaks off at the place to which the path leads, and the file there was not empty already.
An empty file is then left at this place, and nothing else has changed; the output is such a path, as it is
shown. -/
theorem contentAt_run_of_failure (format : Document.PartialFormatter) (surroundings : Surroundings)
    (arguments : List Text) (hexit : (run format surroundings arguments).exitCode ≠ 0) :
    ((∀ output place, ¬BreaksOff format surroundings arguments output place) →
      (run format surroundings arguments).files = surroundings.files) ∧
    (∀ path,
      (run format surroundings arguments).files.contentAt path = surroundings.files.contentAt path ↔
        ∀ output place, BreaksOff format surroundings arguments output place →
          surroundings.files.Leads path place → surroundings.files.contentAt path = some []) ∧
    (∀ output place, BreaksOff format surroundings arguments output place →
      surroundings.files.WrittenAt place [] (run format surroundings arguments).files ∧
      (PathName.steps output ≠ [] →
        surroundings.files.Leads (PathName.shown output) place ∧
          (run format surroundings arguments).files.contentAt (PathName.shown output) = some [])) := by
  refine ⟨?_, ?_, ?_⟩
  · intro hnot
    rcases files_run_of_failure hexit with hkept | ⟨output, place, hbreaks⟩
    · exact hkept
    · exact absurd hbreaks (hnot output place)
  · intro path
    constructor
    · intro hsame output place hbreaks hleads
      rw [← hsame]
      exact (writtenAt_of_breaksOff hbreaks).content path hleads
    · intro hempty
      rcases files_run_of_failure hexit with hkept | ⟨output, place, hbreaks⟩
      · rw [hkept]
      · -- The run broke off: what is left to see is whether this path leads to its place.
        have hwritten := writtenAt_of_breaksOff hbreaks
        by_cases hleads : surroundings.files.Leads path place
        · rw [hempty output place hbreaks hleads]
          exact hwritten.content path hleads
        · exact hwritten.otherContent path hleads
  · intro output place hbreaks
    have hwritten := writtenAt_of_breaksOff hbreaks
    refine ⟨hwritten, fun hsteps => ?_⟩
    have hleads := FileTree.leads_shown hsteps hbreaks.placeToWrite
    exact ⟨hleads, hwritten.content _ hleads⟩

/-- A source whose code has a lone surrogate in it, beside a file with some content. -/
def loneSurrogate : Surroundings where
  environment := []
  files :=
    let source : Text := "\x7b\"a\":\x7b\"kind\":\"Module\",\"qualifiedName\":\"\\ud800\"\x7d\x7d"
    ((FileTree.mk []).add "ast.json" (.file {} (PathName.bytes source))).add "o.js"
      (.file {} (PathName.bytes "keep"))

theorem loneSurrogate_breaksOff :
    (run Document.boundedLayout loneSurrogate ["ast.json", "-o", "o.js"]).exitCode ≠ 0 ∧
      loneSurrogate.files.contentAt "o.js" = some (PathName.bytes "keep") ∧
      ∃ output place, BreaksOff Document.boundedLayout loneSurrogate ["ast.json", "-o", "o.js"] output place ∧
        loneSurrogate.files.Leads "o.js" place := by
  obtain ⟨hexit, hafter⟩ :
      (run Document.boundedLayout loneSurrogate ["ast.json", "-o", "o.js"]).exitCode ≠ 0 ∧
        (run Document.boundedLayout loneSurrogate ["ast.json", "-o", "o.js"]).files.contentAt "o.js" =
          some [] := by
    decide +kernel
  have hbefore : loneSurrogate.files.contentAt "o.js" = some (PathName.bytes "keep") := by decide +kernel
  refine ⟨hexit, hbefore, ?_⟩
  by_contra hnone
  have hsame := ((contentAt_run_of_failure _ _ _ hexit).2.1 "o.js").mpr
    fun output place hbreaks hleads => absurd ⟨output, place, hbreaks, hleads⟩ hnone
  rw [hafter, hbefore] at hsame
  exact absurd hsame (by decide)

/-- An indentation that is too wide makes the formatter fail before the output is opened. -/
example :
    let outcome := run Document.boundedLayout loneSurrogate
      ["ast.json", "--indent-size", "99999999999999999999999", "-o", "o.js"]
    outcome.exitCode = 1 ∧ outcome.files.contentAt "o.js" = some (PathName.bytes "keep") := by
  decide +kernel

/-- An output that may not be written to is an error of usage. -/
example :
    let files := loneSurrogate.files.add "o.js" (.file { write := false } (PathName.bytes "keep"))
    let outcome := run Document.boundedLayout { loneSurrogate with files } ["ast.json", "-o", "o.js"]
    outcome.exitCode = 2 ∧ outcome.files.contentAt "o.js" = some (PathName.bytes "keep") := by
  decide +kernel

end Command

end Externs
