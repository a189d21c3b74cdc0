import Externs.Proofs.CheckedRuns
import Externs.Proofs.ControlSequences
import Externs.Proofs.FailedRuns

/-!
# Runs and generated code

A run of the command with valid settings and a source in UTF-8 reports that the source is refused, or it
delivers the code that is generated from the value in the source. The formatter is any function, which may
fail. In a file and on a terminal the code stands as it is, on any other standard output without its control
sequences.

* `Command.Refused`, `Command.Reports`: a source that is refused, and what a run leaves that says so;
* `Command.Generates`: what the value in a source comes to, code or a fault of the formatter;
* `Command.Delivers`: what a run leaves that delivers code;
* `Command.compile_cases`, `Command.run_cases`: what compiling and running come to;
* `Argument.SameButOutput`: arguments that differ in the output alone;
* `Command.run_agrees_with_generate`: runs refuse what is refused and deliver what is generated.
-/

namespace Externs

set_option autoImplicit false

/-! ## Generated code -/

theorem Node.exists_entries_of_ingest {validate : Bool} {value : Json} {tree : Node}
    (h : (ingest validate value).outcome = .ok tree) : ∃ entries, value = .obj entries := by
  cases value with
  | obj entries => exact ⟨entries, rfl⟩
  | _ => cases h

section

variable {format : Document.PartialFormatter} {settings : Settings} {value : Json}

theorem generate_of_ok {tree : Node} (h : (Node.ingest settings.validateInput value).outcome = .ok tree) :
    (generate format settings value).outcome =
      .ok ((Document.ofTree .nullable settings tree).tryCodeBy format) := by
  rw [generate, Ingestion.bind_of_ok (Document.ofJson_of_ok .nullable settings h)]
  rfl

theorem generate_of_error {error : Malformed}
    (h : (Node.ingest settings.validateInput value).outcome = .error error) :
    (generate format settings value).outcome = .error error := by
  rw [generate, Ingestion.bind_of_error (Document.ofJson_of_error .nullable settings h)]

end

/-! ## Arguments that differ in the output -/

namespace Argument

def Given.isOutput : Given → Bool
  | .slot .output _ => true
  | _ => false

/-- The options that do not say where the output goes. -/
def besidesOutput (options : List Given) : List Given := options.filter fun given => !given.isOutput

/-- Arguments with the same words and the same options, but for those that say where the output goes. -/
def SameButOutput (arguments other : List Text) : Prop :=
  ∃ first second, sort arguments = .ok first ∧ sort other = .ok second ∧ first.words = second.words ∧
    besidesOutput first.options = besidesOutput second.options

theorem findSome?_besidesOutput {α : Type} {select : Given → Option α}
    (h : ∀ path, select (.slot .output path) = none) (options : List Given) :
    (besidesOutput options).reverse.findSome? select = options.reverse.findSome? select := by
  rw [besidesOutput, ← List.filter_reverse]
  induction options.reverse with
  | nil => rfl
  | cons given rest ih =>
    cases hgiven : given.isOutput with
    | false => simp [List.findSome?_cons, hgiven, ih]
    | true =>
      have hnone : select given = none := by
        cases given with
        | slot slot path =>
          cases slot with
          | output => exact h path
          | indentSize => cases hgiven
        | _ => cases hgiven
      simp [hgiven, hnone, ih]

theorem lastState?_besidesOutput (flag : Flag) (options : List Given) :
    lastState? flag (besidesOutput options) = lastState? flag options :=
  findSome?_besidesOutput (fun _ => rfl) options

theorem indentSize_besidesOutput (options : List Given) :
    lastValue? .indentSize (besidesOutput options) = lastValue? .indentSize options :=
  findSome?_besidesOutput (fun _ => rfl) options

end Argument

namespace Invocation

open Argument

theorem overridesOf_besidesOutput (options : List Given) :
    overridesOf (besidesOutput options) = overridesOf options := by
  simp only [overridesOf, lastState?_besidesOutput, indentSize_besidesOutput]

theorem eq_ofSorted {files : FileTree} {arguments : List Text} {sorted : Sorted} {invocation : Invocation}
    (hsort : sort arguments = .ok sorted) (h : ofArguments files arguments = .ok (some invocation)) :
    invocation = ofSorted sorted := by
  rw [ofArguments, hsort] at h
  simp only at h
  split at h
  · cases h
  · split at h
    · cases h
    · cases h
      rfl

theorem eq_of_sameButOutput {files : FileTree} {arguments others : List Text} {invocation other : Invocation}
    (hsame : SameButOutput arguments others)
    (h : ofArguments files arguments = .ok (some invocation))
    (hother : ofArguments files others = .ok (some other)) :
    other.source = invocation.source ∧ other.overrides = invocation.overrides := by
  obtain ⟨first, second, hfirst, hsecond, hwords, hoptions⟩ := hsame
  rw [eq_ofSorted hfirst h, eq_ofSorted hsecond hother]
  constructor
  · rw [ofSorted, ofSorted, hwords]
  · rw [ofSorted, ofSorted]
    simp only
    rw [← overridesOf_besidesOutput, ← hoptions, overridesOf_besidesOutput]

end Invocation

namespace Command

/-- The text of a source is refused: it is no JSON, or no mapping, or settings ask for checks and the mapping
does not pass them. -/
inductive Refused (settings : Settings) (text : Text) : Prop
  | notJson {fault : JsonFault} :
    Json.parse text = .error fault → fault.problem ≠ .oversizedInteger → Refused settings text
  | notMapping {value : Json} :
    Json.parse text = .ok value → (∀ entries, value ≠ .obj entries) → Refused settings text
  | malformed {value : Json} {error : Malformed} :
    Json.parse text = .ok value → settings.validateInput = true →
      (Node.ingest true value).outcome = .error error → Refused settings text

/-- There is a value in the text, and generating code from it comes to a result: code, or a fault of the
formatter. -/
def Generates (format : Document.PartialFormatter) (settings : Settings) (text : Text)
    (result : Except Document.FormatFault Text) : Prop :=
  ∃ value, Json.parse text = .ok value ∧ (generate format settings value).outcome = .ok result

theorem Generates.unique {format : Document.PartialFormatter} {settings : Settings} {text : Text}
    {result other : Except Document.FormatFault Text} (h : Generates format settings text result)
    (hother : Generates format settings text other) : result = other := by
  obtain ⟨value, hparse, hresult⟩ := h
  obtain ⟨value', hparse', hresult'⟩ := hother
  rw [hparse] at hparse'
  cases hparse'
  rw [hresult] at hresult'
  exact Except.ok.inj hresult'

/-- A formatter fails only where settings ask for formatting. -/
theorem Generates.beautify_of_error {format : Document.PartialFormatter} {settings : Settings} {text : Text}
    {fault : Document.FormatFault} (h : Generates format settings text (.error fault)) :
    settings.beautify = true := by
  obtain ⟨value, _, hresult⟩ := h
  cases htree : (Node.ingest settings.validateInput value).outcome with
  | error error =>
    rw [generate_of_error htree] at hresult
    cases hresult
  | ok tree =>
    rw [generate_of_ok htree] at hresult
    by_contra hbeautify
    rw [Bool.not_eq_true] at hbeautify
    simp [Document.tryCodeBy, Document.tryFinish, Document.ofTree, Settings.values, Json.truthy, hbeautify]
      at hresult

theorem refused_of_error {settings : Settings} {text : Text} {value : Json} {error : Malformed}
    (hparse : Json.parse text = .ok value)
    (h : (Node.ingest settings.validateInput value).outcome = .error error) : Refused settings text := by
  by_cases hmapping : ∃ entries, value = .obj entries
  · obtain ⟨entries, rfl⟩ := hmapping
    have hvalidate := Node.validate_of_ingest_error h
    rw [hvalidate] at h
    exact .malformed hparse hvalidate h
  · exact .notMapping hparse fun entries heq => hmapping ⟨entries, heq⟩

theorem not_refused_of_ok {settings : Settings} {text : Text} {value : Json} {tree : Node}
    (hparse : Json.parse text = .ok value)
    (h : (Node.ingest settings.validateInput value).outcome = .ok tree) : ¬Refused settings text := by
  rintro (⟨hother, _⟩ | ⟨hother, hmapping⟩ | ⟨hother, hvalidate, herror⟩)
  · rw [hparse] at hother
    cases hother
  · rw [hparse] at hother
    cases hother
    obtain ⟨entries, heq⟩ := Node.exists_entries_of_ingest h
    exact hmapping entries heq
  · rw [hparse] at hother
    cases hother
    rw [hvalidate, herror] at h
    cases h

theorem Generates.not_refused {format : Document.PartialFormatter} {settings : Settings} {text : Text}
    {result : Except Document.FormatFault Text} (h : Generates format settings text result) :
    ¬Refused settings text := by
  obtain ⟨value, hparse, hresult⟩ := h
  cases htree : (Node.ingest settings.validateInput value).outcome with
  | ok tree => exact not_refused_of_ok hparse htree
  | error error =>
    rw [generate_of_error htree] at hresult
    cases hresult

theorem not_refused_of_oversized {settings : Settings} {text : Text} {fault : JsonFault}
    (hparse : Json.parse text = .error fault) (hproblem : fault.problem = .oversizedInteger) :
    ¬Refused settings text := by
  rintro (⟨hother, hne⟩ | ⟨hother, _⟩ | ⟨hother, _, _⟩)
  · rw [hparse] at hother
    cases hother
    exact hne hproblem
  · rw [hparse] at hother
    cases hother
  · rw [hparse] at hother
    cases hother

/-! ## Compiling -/

/-- **What compiling comes to**, for a source with a text. An integer of too many digits is the one fault of
a text that is not reported. -/
theorem compile_cases (format : Document.PartialFormatter) {files : FileTree} {source text : Text}
    (settings : Settings) (htext : sourceText files source = some text) :
    (Refused settings text ∧ ∃ fault message, (compile format files source settings).2 = .error fault ∧
      report? source fault = some message) ∨
    (¬Refused settings text ∧
      (∃ fault, Json.parse text = .error fault ∧ fault.problem = .oversizedInteger) ∧
      (compile format files source settings).2 = .error (.breakdown .oversizedInteger)) ∨
    (¬Refused settings text ∧ ∃ fault, Generates format settings text (.error fault) ∧
      (compile format files source settings).2 = .error (.breakdown (.formatting fault))) ∨
    (¬Refused settings text ∧ ∃ code, Generates format settings text (.ok code) ∧
      (compile format files source settings).2 = .ok code) := by
  cases hparse : Json.parse text with
  | error fault =>
    by_cases hproblem : fault.problem = .oversizedInteger
    · refine .inr (.inl ⟨not_refused_of_oversized hparse hproblem, ⟨fault, rfl, hproblem⟩, ?_⟩)
      simp only [compile, readSource, htext, hparse, if_pos hproblem]
    · refine .inl ⟨.notJson hparse hproblem, .notJson fault text, _, ?_, rfl⟩
      simp only [compile, readSource, htext, hparse, if_neg hproblem]
  | ok value =>
    cases htree : (Node.ingest settings.validateInput value).outcome with
    | error error =>
      refine .inl ⟨refused_of_error hparse htree, .malformed error, _, ?_, rfl⟩
      simp only [compile, readSource, htext, hparse, generate_of_error htree]
    | ok tree =>
      have hrefused := not_refused_of_ok hparse htree
      have hgenerate : (generate format settings value).outcome = _ := generate_of_ok htree
      cases hresult : (Document.ofTree .nullable settings tree).tryCodeBy format with
      | error fault =>
        rw [hresult] at hgenerate
        refine .inr (.inr (.inl ⟨hrefused, fault, ⟨value, hparse, hgenerate⟩, ?_⟩))
        simp only [compile, readSource, htext, hparse, hgenerate]
      | ok code =>
        rw [hresult] at hgenerate
        refine .inr (.inr (.inr ⟨hrefused, code, ⟨value, hparse, hgenerate⟩, ?_⟩))
        simp only [compile, readSource, htext, hparse, hgenerate]

/-! ## Reports -/

/-- A report on standard error, and nothing else. -/
structure Reports (files : FileTree) (outcome : Outcome) : Prop where
  exitCode : outcome.exitCode = 1
  stderr : Text.ofString "Error: " <+: outcome.stderr
  stdout : outcome.stdout = []
  files : outcome.files = files

theorem errorLine_starts (terminal : Bool) (message : Text) :
    Text.ofString "Error: " <+: errorLine terminal message := by
  have hescape : CodePoint.scalar '\x1b' ∉ Text.ofString "Error: " := by decide
  have hshown : showSurrogates (Text.ofString "Error: ") = Text.ofString "Error: " := by decide
  obtain ⟨rest, hrest⟩ : ∃ rest, onStream terminal ("Error: " ++ message ++ "\n") =
      Text.ofString "Error: " ++ rest := by
    rw [onStream, List.append_assoc]
    split
    · exact ⟨_, rfl⟩
    · exact ⟨_, Text.withoutControls_append hescape _⟩
  rw [errorLine, onStandardError, hrest, showSurrogates, List.flatMap_append]
  exact ⟨_, congrArg (· ++ _) hshown.symm⟩

/-! ## Standard output -/

/-- What standard output shows of code: all of it on a terminal, and elsewhere the code without its control
sequences. -/
def Shows (terminal : Bool) (code shown : Text) : Prop :=
  if terminal then shown = code else ControlSequence.Stripped code shown

theorem shows_onStream (terminal : Bool) (code : Text) : Shows terminal code (onStream terminal code) := by
  cases terminal with
  | true => exact rfl
  | false => exact Text.stripped_withoutControls code

/-- Code is shown as it is on a terminal, or if there is no control sequence in it. -/
theorem Shows.eq_iff {terminal : Bool} {code shown : Text} (h : Shows terminal code shown) :
    shown = code ↔
      terminal = true ∨ ∀ sequence, ControlSequence.IsSequence sequence → ¬sequence <:+: code := by
  cases terminal with
  | true => exact iff_of_true h (.inl rfl)
  | false =>
    have hshown : code.withoutControls = shown := (Text.withoutControls_eq_iff code shown).mpr h
    rw [← hshown, Text.withoutControls_eq_self_iff]
    simp

/-- The line feed that standard output adds to code, unless the code ends with one. -/
def missingLineFeed (code : Text) : Text :=
  if code.getLast? = some Text.lineFeed then [] else [Text.lineFeed]

theorem withFinalLineFeed_eq (code : Text) : withFinalLineFeed code = code ++ missingLineFeed code := by
  rw [withFinalLineFeed, missingLineFeed]
  split
  · rw [List.append_nil]
  · rfl

theorem onStandardOutput_eq (terminal : Bool) (code : Text) :
    onStandardOutput terminal code = onStream terminal code ++ missingLineFeed code := by
  rw [onStandardOutput, withFinalLineFeed_eq]
  cases terminal with
  | true => rfl
  | false =>
    rw [missingLineFeed]
    split
    · rw [List.append_nil, List.append_nil]
    · exact Text.withoutControls_append_lineFeed code

/-! ## Deliveries -/

def Writable (files : FileTree) (output : Option Text) : Prop :=
  ∀ path ∈ output, ∃ place, files.placeToWrite path = .ok place

theorem writable_none (files : FileTree) : Writable files none := by
  intro path hpath
  cases hpath

def Encodable (t : Text) : Prop := ∀ index, CodePoint.surrogate index ∉ t

theorem encodable_iff (t : Text) : Encodable t ↔ ∃ bytes, Utf8.encode? t = some bytes := by
  rw [← Option.ne_none_iff_exists', Ne, Utf8.encode?_eq_none_iff, not_exists]
  exact Iff.rfl

theorem encodable_onStandardOutput (terminal : Bool) (code : Text) :
    Encodable (onStandardOutput terminal code) ↔ Encodable code := by
  refine forall_congr' fun index => not_congr ?_
  have hmissing : CodePoint.surrogate index ∉ missingLineFeed code := by
    rw [missingLineFeed]
    split <;> simp [Text.lineFeed]
  rw [onStandardOutput_eq, List.mem_append, or_iff_left hmissing]
  cases terminal with
  | true => exact Iff.rfl
  | false =>
    -- Control sequences have no surrogates in them, so leaving them out changes nothing here.
    exact Text.surrogate_mem_withoutControls code index

/-- What a run leaves that delivers code. -/
structure Delivers (surroundings : Surroundings) (output : Option Text) (code : Text) (outcome : Outcome) :
    Prop where
  exitCode : outcome.exitCode = 0
  stderr : outcome.stderr = []
  /-- On standard output, the code stands as it is shown there, and ends with a line feed. -/
  printed : output = none → outcome.files = surroundings.files ∧
    ∃ shown, Shows surroundings.outputTerminal code shown ∧ outcome.stdout = shown ++ missingLineFeed code
  /-- In a file, the code stands as it is. All other files stay as they were. -/
  written : ∀ path ∈ output, outcome.stdout = [] ∧
    ∃ place bytes, surroundings.files.placeToWrite path = .ok place ∧ Utf8.encode? code = some bytes ∧
      (PathName.steps path ≠ [] → surroundings.files.Leads (PathName.shown path) place) ∧
      surroundings.files.WrittenAt place bytes outcome.files

section

variable {surroundings : Surroundings} {output : Option Text} {code : Text}

theorem delivers_deliver (hcode : Encodable code) (hwritable : Writable surroundings.files output)
    (notices : List Notice) :
    Delivers surroundings output code (deliver surroundings notices output code) := by
  cases output with
  | none =>
    obtain ⟨bytes, hbytes⟩ := (encodable_iff _).mp
      ((encodable_onStandardOutput surroundings.outputTerminal code).mpr hcode)
    simp only [deliver, hbytes]
    refine ⟨rfl, rfl, fun _ => ⟨rfl, _, shows_onStream _ code, onStandardOutput_eq _ code⟩, ?_⟩
    intro path hpath
    cases hpath
  | some path =>
    obtain ⟨place, hplace⟩ := hwritable path rfl
    obtain ⟨bytes, hbytes⟩ := (encodable_iff code).mp hcode
    simp only [deliver, hplace, hbytes]
    refine ⟨rfl, rfl, ?_, ?_⟩
    · intro hnone
      cases hnone
    · intro path hpath
      cases hpath
      exact ⟨rfl, place, bytes, hplace, hbytes, fun hsteps => FileTree.leads_shown hsteps hplace,
        FileTree.writtenAt_write hplace bytes⟩

theorem deliverable_of_exitCode {notices : List Notice}
    (h : (deliver surroundings notices output code).exitCode = 0) :
    Encodable code ∧ Writable surroundings.files output := by
  cases output with
  | none =>
    refine ⟨(encodable_onStandardOutput surroundings.outputTerminal code).mp ((encodable_iff _).mpr ?_),
      writable_none _⟩
    cases hbytes : Utf8.encode? (onStandardOutput surroundings.outputTerminal code) with
    | some bytes => exact ⟨bytes, rfl⟩
    | none =>
      simp only [deliver, hbytes] at h
      cases h
  | some path =>
    cases hplace : surroundings.files.placeToWrite path with
    | error problem =>
      simp only [deliver, hplace] at h
      cases h
    | ok place =>
      refine ⟨(encodable_iff code).mpr ?_, fun _ hpath => Option.some.inj hpath ▸ ⟨place, hplace⟩⟩
      cases hbytes : Utf8.encode? code with
      | some bytes => exact ⟨bytes, rfl⟩
      | none =>
        simp only [deliver, hplace, hbytes] at h
        cases h

theorem Delivers.stdout_eq_iff {outcome : Outcome} (h : Delivers surroundings none code outcome) :
    outcome.stdout = withFinalLineFeed code ↔ surroundings.outputTerminal = true ∨
      ∀ sequence, ControlSequence.IsSequence sequence → ¬sequence <:+: code := by
  obtain ⟨_, shown, hshown, hstdout⟩ := h.printed rfl
  rw [hstdout, withFinalLineFeed_eq, List.append_left_inj, hshown.eq_iff]

theorem stderr_deliver (notices : List Notice) : (deliver surroundings notices output code).stderr = [] := by
  cases output with
  | none =>
    simp only [deliver]
    split <;> rfl
  | some path =>
    simp only [deliver]
    split
    · rfl
    · split <;> rfl

end

/-! ## Runs -/

/-- Arguments start a run that reads a text: the call is valid and no call for help, the settings in force are
valid, and the source is UTF-8. -/
structure Starts (surroundings : Surroundings) (arguments : List Text) (invocation : Invocation)
    (settings : Settings) (text : Text) : Prop where
  call : Invocation.ofArguments surroundings.files arguments = .ok (some invocation)
  settings : settingsOf surroundings invocation = .ok settings
  text : sourceText surroundings.files invocation.source = some text

section

variable {format : Document.PartialFormatter} {surroundings : Surroundings} {arguments : List Text}
  {invocation : Invocation} {settings : Settings} {text : Text}

theorem Starts.sameButOutput (h : Starts surroundings arguments invocation settings text)
    {others : List Text} {other : Invocation} (hsame : Argument.SameButOutput arguments others)
    (hother : Invocation.ofArguments surroundings.files others = .ok (some other)) :
    Starts surroundings others other settings text := by
  obtain ⟨hsource, hoverrides⟩ := Invocation.eq_of_sameButOutput hsame h.call hother
  refine ⟨hother, ?_, ?_⟩
  · rw [settingsOf, hoverrides]
    exact h.settings
  · rw [hsource]
    exact h.text

/-- **What a run comes to**, for a valid call with valid settings and a source with a text. -/
theorem run_cases (format : Document.PartialFormatter)
    (h : Starts surroundings arguments invocation settings text) :
    (Refused settings text ∧ Reports surroundings.files (run format surroundings arguments)) ∨
    (¬Refused settings text ∧
      (∃ fault, Json.parse text = .error fault ∧ fault.problem = .oversizedInteger) ∧
      ∃ notices, run format surroundings arguments = .broken surroundings.files notices .oversizedInteger) ∨
    (¬Refused settings text ∧ ∃ fault, Generates format settings text (.error fault) ∧
      ∃ notices,
        run format surroundings arguments = .broken surroundings.files notices (.formatting fault)) ∨
    (¬Refused settings text ∧ ∃ code notices logged, Generates format settings text (.ok code) ∧
      run format surroundings arguments =
        { deliver surroundings notices invocation.output code with notices := logged }) := by
  rcases compile_cases format settings h.text with ⟨hrefused, fault, message, hfault, hreport⟩ |
    ⟨hrefused, hparse, hfault⟩ | ⟨hrefused, fault, hgenerates, hfault⟩ | ⟨hrefused, code, hgenerates, hcode⟩
  · refine .inl ⟨hrefused, ?_⟩
    rw [run, h.call]
    simp only [execute, h.settings, hfault]
    -- What has a report is no breakdown, and ends the run with this report.
    cases fault with
    | breakdown breakdown => cases hreport
    | notJson | malformed =>
      refine ⟨rfl, ?_, rfl, rfl⟩
      exact errorLine_starts _ _
  · refine .inr (.inl ⟨hrefused, hparse, ?_⟩)
    rw [run, h.call]
    simp only [execute, h.settings, hfault]
    exact ⟨_, rfl⟩
  · refine .inr (.inr (.inl ⟨hrefused, fault, hgenerates, ?_⟩))
    rw [run, h.call]
    simp only [execute, h.settings, hfault]
    exact ⟨_, rfl⟩
  · refine .inr (.inr (.inr ⟨hrefused, code, ?_⟩))
    rw [run, h.call]
    simp only [execute, h.settings, hcode]
    exact ⟨_, _, hgenerates, rfl⟩

theorem not_reports_of_stderr {files : FileTree} {outcome : Outcome} (h : outcome.stderr = []) :
    ¬Reports files outcome := by
  intro hreports
  have hstarts := hreports.stderr
  rw [h] at hstarts
  exact absurd (List.prefix_nil.mp hstarts) (by decide)

theorem reports_iff_refused (h : Starts surroundings arguments invocation settings text) :
    Reports surroundings.files (run format surroundings arguments) ↔ Refused settings text := by
  rcases run_cases format h with ⟨hrefused, hreports⟩ | ⟨hrefused, _, notices, hrun⟩ |
    ⟨hrefused, _, _, notices, hrun⟩ | ⟨hrefused, code, notices, logged, _, hrun⟩
  · exact iff_of_true hreports hrefused
  · rw [hrun]
    exact iff_of_false (not_reports_of_stderr rfl) hrefused
  · rw [hrun]
    exact iff_of_false (not_reports_of_stderr rfl) hrefused
  · rw [hrun]
    exact iff_of_false (not_reports_of_stderr (stderr_deliver notices)) hrefused

/-- If code is generated, the run does nothing but deliver it. -/
theorem run_eq_of_generates (h : Starts surroundings arguments invocation settings text) {code : Text}
    (hgenerates : Generates format settings text (.ok code)) :
    ∃ notices logged, run format surroundings arguments =
      { deliver surroundings notices invocation.output code with notices := logged } := by
  rcases run_cases format h with ⟨hrefused, _⟩ | ⟨_, ⟨fault, hfault, _⟩, _⟩ | ⟨_, fault, hother, _⟩ |
    ⟨_, other, notices, logged, hother, hrun⟩
  · exact absurd hrefused hgenerates.not_refused
  · obtain ⟨value, hparse, _⟩ := hgenerates
    rw [hparse] at hfault
    cases hfault
  · cases hgenerates.unique hother
  · cases hgenerates.unique hother
    exact ⟨notices, logged, hrun⟩

theorem run_of_generates (h : Starts surroundings arguments invocation settings text) {code : Text}
    (hgenerates : Generates format settings text (.ok code)) :
    ((run format surroundings arguments).exitCode = 0 ↔
      Encodable code ∧ Writable surroundings.files invocation.output) ∧
    ((run format surroundings arguments).exitCode = 0 →
      Delivers surroundings invocation.output code (run format surroundings arguments)) := by
  obtain ⟨notices, logged, hrun⟩ := run_eq_of_generates h hgenerates
  rw [hrun]
  constructor
  · constructor
    · exact deliverable_of_exitCode
    · rintro ⟨hencodable, hwritable⟩
      exact (delivers_deliver hencodable hwritable notices).exitCode
  · intro hexit
    obtain ⟨hencodable, hwritable⟩ := deliverable_of_exitCode hexit
    obtain ⟨hzero, hstderr, hprinted, hwritten⟩ := delivers_deliver hencodable hwritable notices
    exact ⟨hzero, hstderr, hprinted, hwritten⟩

theorem exists_generates_of_exitCode (h : Starts surroundings arguments invocation settings text)
    (hzero : (run format surroundings arguments).exitCode = 0) :
    ∃ code, Generates format settings text (.ok code) := by
  rcases run_cases format h with ⟨_, hreports⟩ | ⟨_, _, notices, hrun⟩ | ⟨_, _, _, notices, hrun⟩ |
    ⟨_, code, _, _, hgenerates, _⟩
  · cases hzero.symm.trans hreports.exitCode
  · rw [hrun] at hzero
    cases hzero
  · rw [hrun] at hzero
    cases hzero
  · exact ⟨code, hgenerates⟩

/-- If a run ends well, so does any other that reads the same text with the same settings and can write. -/
theorem exitCode_of_starts (h : Starts surroundings arguments invocation settings text)
    (hzero : (run format surroundings arguments).exitCode = 0) {others : List Text} {other : Invocation}
    (hother : Starts surroundings others other settings text)
    (hwritable : Writable surroundings.files other.output) :
    (run format surroundings others).exitCode = 0 := by
  obtain ⟨code, hgenerates⟩ := exists_generates_of_exitCode h hzero
  obtain ⟨hencodable, _⟩ := (run_of_generates h hgenerates).1.mp hzero
  exact (run_of_generates hother hgenerates).1.mpr ⟨hencodable, hwritable⟩

end

/-- **Runs and generated code.** Let arguments start a run that reads a text, with any formatter. The run
reports an error, and does nothing else, just if the text is refused. Otherwise an integer of too many digits
breaks it down, or so does the formatter, if settings ask for it, or code is generated from the value in the
text. With code, the run ends well just if the code can be encoded and the output written, and then it delivers
this code: to a file as it is, and to standard output with a line feed at its end, where control sequences are
left out unless it is a terminal. So two runs that differ in the output alone report the same sources, end well
together if they can write, and deliver the same code. -/
theorem run_agrees_with_generate (format : Document.PartialFormatter) (surroundings : Surroundings)
    (arguments : List Text) (invocation : Invocation) (settings : Settings) (text : Text)
    (h : Starts surroundings arguments invocation settings text) :
    (Reports surroundings.files (run format surroundings arguments) ↔ Refused settings text) ∧
    (¬Refused settings text →
      ((∃ fault, Json.parse text = .error fault ∧ fault.problem = .oversizedInteger) ∧
        ∃ notices,
          run format surroundings arguments = .broken surroundings.files notices .oversizedInteger) ∨
      (settings.beautify = true ∧ ∃ fault, Generates format settings text (.error fault) ∧
        ∃ notices,
          run format surroundings arguments = .broken surroundings.files notices (.formatting fault)) ∨
      ∃ code, Generates format settings text (.ok code)) ∧
    (∀ code, Generates format settings text (.ok code) →
      ((run format surroundings arguments).exitCode = 0 ↔
        Encodable code ∧ Writable surroundings.files invocation.output) ∧
      ((run format surroundings arguments).exitCode = 0 →
        Delivers surroundings invocation.output code (run format surroundings arguments) ∧
        (invocation.output = none →
          ((run format surroundings arguments).stdout = withFinalLineFeed code ↔
            surroundings.outputTerminal = true ∨
              ∀ sequence, ControlSequence.IsSequence sequence → ¬sequence <:+: code)))) ∧
    ∀ others other, Argument.SameButOutput arguments others →
      Invocation.ofArguments surroundings.files others = .ok (some other) →
      (Reports surroundings.files (run format surroundings others) ↔
        Reports surroundings.files (run format surroundings arguments)) ∧
      (Writable surroundings.files invocation.output → Writable surroundings.files other.output →
        ((run format surroundings others).exitCode = 0 ↔ (run format surroundings arguments).exitCode = 0)) ∧
      ((run format surroundings arguments).exitCode = 0 → (run format surroundings others).exitCode = 0 →
        ∃ code, Generates format settings text (.ok code) ∧
          Delivers surroundings invocation.output code (run format surroundings arguments) ∧
          Delivers surroundings other.output code (run format surroundings others)) := by
  refine ⟨reports_iff_refused h, ?_, ?_, ?_⟩
  · intro hnot
    rcases run_cases format h with ⟨hrefused, _⟩ | ⟨_, hoversized⟩ | ⟨_, fault, hgenerates, hrun⟩ |
      ⟨_, code, _, _, hgenerates, _⟩
    · exact absurd hrefused hnot
    · exact .inl hoversized
    · exact .inr (.inl ⟨hgenerates.beautify_of_error, fault, hgenerates, hrun⟩)
    · exact .inr (.inr ⟨code, hgenerates⟩)
  · intro code hgenerates
    obtain ⟨hexit, hdelivers⟩ := run_of_generates h hgenerates
    refine ⟨hexit, fun hzero => ⟨hdelivers hzero, fun hnone => ?_⟩⟩
    have hprinted := hdelivers hzero
    rw [hnone] at hprinted
    exact hprinted.stdout_eq_iff
  · intro others other hsame hother
    have hstarts := h.sameButOutput hsame hother
    refine ⟨?_, ?_, ?_⟩
    · rw [reports_iff_refused hstarts, reports_iff_refused h]
    · intro hwritable hwritable'
      exact ⟨fun hzero => exitCode_of_starts hstarts hzero h hwritable,
        fun hzero => exitCode_of_starts h hzero hstarts hwritable'⟩
    · intro hzero hzero'
      obtain ⟨code, hgenerates⟩ := exists_generates_of_exitCode h hzero
      exact ⟨code, hgenerates, (run_of_generates h hgenerates).2 hzero,
        (run_of_generates hstarts hgenerates).2 hzero'⟩

def boldEntries : Assoc Json := [("a", .obj [("kind", .str "Module"), ("qualifiedName", .str "\x1b[1mA")])]

/-- A source in which a name starts with a control sequence. -/
def boldSource : Text := "\x7b\"a\":\x7b\"kind\":\"Module\",\"qualifiedName\":\"\\u001b[1mA\"\x7d\x7d"

def boldSurroundings : Surroundings where
  environment := []
  files := (FileTree.mk []).add "a.json" (.file {} (PathName.bytes boldSource))

/-- The plain text of the document. -/
def boldText : Text := (Document.ofTree .nullable {} (Node.ofEntries boldEntries)).render

theorem boldSource_is_stripped :
    ∃ invocation settings,
      Starts boldSurroundings ["a.json", "--no-beautify"] invocation settings boldSource ∧
      Generates Document.boundedLayout settings boldSource (.ok boldText) ∧
      Delivers boldSurroundings none boldText
        (run Document.boundedLayout boldSurroundings ["a.json", "--no-beautify"]) ∧
      (run Document.boundedLayout boldSurroundings ["a.json", "--no-beautify"]).stdout ≠
        withFinalLineFeed boldText := by
  obtain ⟨invocation, houtput, hstarts⟩ : ∃ invocation, invocation.output = none ∧
      Starts boldSurroundings ["a.json", "--no-beautify"] invocation { beautify := false } boldSource :=
    ⟨_, rfl, rfl, rfl, rfl⟩
  have hparse : Json.parse boldSource = .ok (.obj boldEntries) := by rfl
  have htree : (Node.ingest false (.obj boldEntries)).outcome = .ok (Node.ofEntries boldEntries) := by
    rw [Node.ingest_false_obj]
  have hgenerates : Generates Document.boundedLayout { beautify := false } boldSource (.ok boldText) :=
    ⟨_, hparse, generate_of_ok htree⟩
  have hsequence : ControlSequence.IsSequence "\x1b[1m" :=
    ⟨"1m", ⟨"1", [], .scalar 'm', rfl, by decide, by decide, by decide⟩, rfl⟩
  have hinner : Text.ofString "\x1b[1m" <:+: boldText := by decide +kernel
  have hencodable : Encodable boldText :=
    (encodable_iff _).mpr (Option.isSome_iff_exists.mp (by decide +kernel))
  obtain ⟨_, _, hcode, _⟩ := run_agrees_with_generate Document.boundedLayout _ _ _ _ _ hstarts
  obtain ⟨hexit, hends⟩ := hcode _ hgenerates
  have hwritable : Writable boldSurroundings.files invocation.output := houtput ▸ writable_none _
  obtain ⟨hdelivers, hstdout⟩ := hends (hexit.mpr ⟨hencodable, hwritable⟩)
  refine ⟨invocation, _, hstarts, hgenerates, houtput ▸ hdelivers, fun heq => ?_⟩
  rcases (hstdout houtput).mp heq with hterminal | hnone
  · cases hterminal
  · exact hnone _ hsequence hinner

end Command

end Externs
