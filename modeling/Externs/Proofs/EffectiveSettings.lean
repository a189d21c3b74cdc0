import Externs.Proofs.Precedence
import Externs.Proofs.RunResults

/-!
# Effective settings of a run

A run goes on with the effective value of each setting, or it fails because the variables of some settings are
refused, and reports them all.

* `Command.readable_of_accepted`: an accepted call has values for all settings that it has options for;
* `Command.InForce`, `Command.proceed`: the settings of a run, and the part of it that comes after them;
* `Command.FailsOnSettings`, `Command.ReportsFault`: runs that end because of their settings;
* `Command.settings_cases`: what a run makes of its settings;
* `Command.settings_by_field`: the settings of a run, each by itself.
-/

namespace Externs.Command

set_option autoImplicit false

open Argument

/-! ## Accepted calls -/

section

variable {files : FileTree} {arguments : List Text} {sorted : Sorted} {invocation : Invocation}

theorem refusal?_of_accepted (hsort : sort arguments = .ok sorted)
    (h : Invocation.ofArguments files arguments = .ok (some invocation)) :
    Invocation.refusal? files sorted = none := by
  rw [Invocation.ofArguments, hsort] at h
  simp only at h
  split at h
  · cases h
  · split at h
    · cases h
    · assumption

theorem lastValue?_of_isLastFor {options : List Given} {text : Text}
    (h : IsLastFor .indentSize options (.slot .indentSize text)) :
    lastValue? .indentSize options = some text := by
  obtain ⟨before, after, rfl, _, hlater⟩ := h
  rw [lastValue?, List.findSome?_eq_some_iff]
  refine ⟨after.reverse, .slot .indentSize text, before.reverse, by simp, rfl, ?_⟩
  intro later hmem
  have hne := hlater later (List.mem_reverse.mp hmem)
  cases later with
  | slot slot other =>
    cases slot with
    | output => rfl
    | indentSize => exact absurd rfl hne
  | flag | help => rfl

/-- A call is accepted only if the last indentation is an integer. -/
theorem readable_of_accepted (hsort : sort arguments = .ok sorted)
    (h : Invocation.ofArguments files arguments = .ok (some invocation)) : Readable sorted.options := by
  intro setting given hlast
  have hsetting := hlast.setting?_eq
  cases given with
  | flag flag on => exact ⟨_, rfl⟩
  | help => cases hsetting
  | slot slot text =>
    cases slot with
    | output => cases hsetting
    | indentSize =>
      cases hsetting
      have hmem : Slot.indentSize ∈ slotsGiven sorted.options := by
        rw [slotsGiven, List.mem_eraseDups, List.mem_filterMap]
        exact ⟨_, hlast.mem, rfl⟩
      -- Only the last text of a slot is looked at, and the call would be refused if it were no integer.
      have hrefusal := refusal?_of_accepted hsort h
      rw [Invocation.refusal?] at hrefusal
      split at hrefusal
      · cases hrefusal
      · next hslots =>
        have hslot := List.findSome?_eq_none_iff.mp hslots _ hmem
        simp only [slotRefusal?, lastValue?_of_isLastFor hlast] at hslot
        split at hslot
        · cases hslot
        · next hinteger =>
          have hsome : Integer.ofOption? text ≠ none := by simpa using hinteger
          obtain ⟨n, hn⟩ := Option.ne_none_iff_exists'.mp hsome
          exact ⟨.int n, by rw [Given.value?, hn, Option.map_some]⟩

end

/-! ## Runs -/

/-- The settings that a run works with. -/
def InForce (surroundings : Surroundings) (invocation : Invocation) (settings : Settings) : Prop :=
  settingsOf surroundings invocation = .ok settings

/-- The part of a run that comes after its settings. -/
def proceed (format : Document.PartialFormatter) (surroundings : Surroundings) (invocation : Invocation)
    (settings : Settings) : Outcome :=
  let compiled := compile format surroundings.files invocation.source settings
  let outcome := match compiled.2 with
    | .error fault => fail surroundings compiled.1 invocation.source fault
    | .ok code => deliver surroundings compiled.1 invocation.output code
  { outcome with notices := logged invocation.debug outcome.notices }

/-- A run ends because its settings are refused. -/
def FailsOnSettings (outcome : Outcome) (faults : List SettingFault) : Prop :=
  outcome.exitCode = 1 ∧ outcome.breakdown = some (.badSettings faults)

/-- A run ends so, and the fault is among those that it reports. -/
def ReportsFault (outcome : Outcome) (fault : SettingFault) : Prop :=
  ∃ faults, FailsOnSettings outcome faults ∧ fault ∈ faults

section

variable {format : Document.PartialFormatter} {surroundings : Surroundings} {arguments : List Text}
  {sorted : Sorted} {invocation : Invocation} {settings : Settings} {faults : List SettingFault}

theorem run_of_inForce (h : Invocation.ofArguments surroundings.files arguments = .ok (some invocation))
    (hsettings : InForce surroundings invocation settings) :
    run format surroundings arguments = proceed format surroundings invocation settings := by
  rw [InForce] at hsettings
  rw [run, h]
  simp only [execute, hsettings]
  rfl

theorem run_of_error (h : Invocation.ofArguments surroundings.files arguments = .ok (some invocation))
    (hfaults : settingsOf surroundings invocation = .error faults) :
    run format surroundings arguments = .broken surroundings.files [] (.badSettings faults) := by
  rw [run, h]
  simp only [execute, hfaults]

theorem breakdown_of_readSource {files : FileTree} {source : Text} {breakdown : Breakdown}
    (h : readSource files source = .error (.breakdown breakdown)) :
    breakdown = .undecodableSource ∨ breakdown = .oversizedInteger := by
  rw [readSource] at h
  split at h
  · cases h
    exact .inl rfl
  · split at h
    · cases h
    · split at h
      · cases h
        exact .inr rfl
      · cases h

theorem breakdown_of_compile {files : FileTree} {source : Text} {breakdown : Breakdown}
    (h : (compile format files source settings).2 = .error (.breakdown breakdown)) :
    breakdown = .undecodableSource ∨ breakdown = .oversizedInteger ∨
      ∃ fault, breakdown = .formatting fault := by
  rw [compile] at h
  split at h
  · next fault hread =>
    cases h
    exact (breakdown_of_readSource hread).imp_right .inl
  · simp only at h
    split at h
    · cases h
    · next fault _ =>
      cases h
      exact .inr (.inr ⟨fault, rfl⟩)
    · cases h

theorem breakdown_deliver_ne (notices : List Notice) (output : Option Text) (code : Text) :
    (deliver surroundings notices output code).breakdown ≠ some (.badSettings faults) := by
  cases output with
  | none =>
    simp only [deliver]
    split <;> simp [Outcome.success, Outcome.broken]
  | some path =>
    simp only [deliver]
    split
    · simp [Outcome.broken]
    · split <;> simp [Outcome.success, Outcome.broken]

theorem breakdown_proceed_ne :
    (proceed format surroundings invocation settings).breakdown ≠ some (.badSettings faults) := by
  rw [proceed]
  cases hcode : (compile format surroundings.files invocation.source settings).2 with
  | ok code => exact breakdown_deliver_ne _ _ _
  | error fault =>
    cases fault with
    | breakdown breakdown =>
      rcases breakdown_of_compile hcode with rfl | rfl | ⟨fault, rfl⟩ <;> simp [fail, Outcome.broken]
    | notJson | malformed => simp [fail, Outcome.reported]

variable (hsort : sort arguments = .ok sorted)
  (haccepted : Invocation.ofArguments surroundings.files arguments = .ok (some invocation))
  (hdistinct : surroundings.environment.CaseDistinct)
include hsort haccepted

/-- The settings of a run come from its options and its environment, and from nothing else. -/
theorem load_of_accepted (environment : Environment) :
    Settings.load invocation.overrides environment none none =
      Settings.resolveDirected (sources environment sorted.options) := by
  obtain rfl := Invocation.eq_ofSorted hsort haccepted
  exact congrArg Settings.resolveDirected (Settings.Sources.directed_of_named named_sources)

theorem inForce_iff : InForce surroundings invocation settings ↔ ∀ setting,
    (sources surroundings.environment sorted.options).result setting = .ok (settings.values setting) := by
  rw [InForce, settingsOf, load_of_accepted hsort haccepted, Settings.resolveDirected_eq_ok_iff unknownNames_sources]

include hdistinct

theorem effective_iff_of_inForce (h : InForce surroundings invocation settings) (setting : SettingName)
    (value : Json) :
    Effective surroundings.environment sorted.options setting value ↔ value = settings.values setting := by
  rw [← result_eq_ok_iff hdistinct (readable_of_accepted hsort haccepted),
    (inForce_iff hsort haccepted).mp h setting, Except.ok.injEq, eq_comm]

variable (format)

/-- **What a run makes of its settings**: it goes on with those in force, or it fails with all faults. -/
theorem settings_cases :
    (∃ settings, InForce surroundings invocation settings ∧
      run format surroundings arguments = proceed format surroundings invocation settings ∧
      (∀ faults, ¬FailsOnSettings (run format surroundings arguments) faults) ∧
      ∀ setting cause, ¬Faulty surroundings.environment sorted.options setting cause) ∨
    (∃ faults, FailsOnSettings (run format surroundings arguments) faults ∧ faults ≠ [] ∧
      ∀ fault, fault ∈ faults ↔ ∃ setting cause,
        Faulty surroundings.environment sorted.options setting cause ∧ fault = ⟨setting.text, cause⟩) := by
  have hreadable := readable_of_accepted hsort haccepted
  have hresolve := load_of_accepted hsort haccepted surroundings.environment
  cases hresult : Settings.resolveDirected (sources surroundings.environment sorted.options) with
  | ok settings =>
    have hsettings : InForce surroundings invocation settings := hresolve.trans hresult
    have hrun : run format surroundings arguments = proceed format surroundings invocation settings :=
      run_of_inForce haccepted hsettings
    refine .inl ⟨settings, hsettings, hrun, ?_, ?_⟩
    · rintro faults ⟨_, hbreakdown⟩
      rw [hrun] at hbreakdown
      exact breakdown_proceed_ne hbreakdown
    · intro setting cause hfaulty
      have herror := (result_eq_error_iff hdistinct hreadable).mpr hfaulty
      rw [(inForce_iff hsort haccepted).mp hsettings setting] at herror
      cases herror
  | error faults =>
    obtain ⟨hne, hmem⟩ := Settings.mem_of_resolveDirected_eq_error unknownNames_sources hresult
    refine .inr ⟨faults, ?_, hne, fun fault => ?_⟩
    · rw [run_of_error haccepted (hresolve.trans hresult)]
      exact ⟨rfl, rfl⟩
    · simp only [hmem, result_eq_error_iff hdistinct hreadable]

theorem fails_iff : (∃ faults, FailsOnSettings (run format surroundings arguments) faults) ↔
    ∃ setting cause, Faulty surroundings.environment sorted.options setting cause := by
  rcases settings_cases format hsort haccepted hdistinct with ⟨settings, _, _, hends, hnone⟩ |
    ⟨faults, hfails, hne, hmem⟩
  · refine iff_of_false (not_exists.mpr hends) ?_
    rintro ⟨setting, cause, hfaulty⟩
    exact hnone setting cause hfaulty
  · obtain ⟨fault, hfault⟩ := List.exists_mem_of_ne_nil faults hne
    obtain ⟨setting, cause, hfaulty, _⟩ := (hmem fault).mp hfault
    exact iff_of_true ⟨faults, hfails⟩ ⟨setting, cause, hfaulty⟩

theorem reportsFault_iff (fault : SettingFault) : ReportsFault (run format surroundings arguments) fault ↔
    ∃ setting cause, Faulty surroundings.environment sorted.options setting cause ∧
      fault = ⟨setting.text, cause⟩ := by
  rcases settings_cases format hsort haccepted hdistinct with ⟨settings, _, _, hends, hnone⟩ |
    ⟨faults, hfails, _, hmem⟩
  · refine iff_of_false ?_ ?_
    · rintro ⟨faults, hfails, _⟩
      exact hends faults hfails
    · rintro ⟨setting, cause, hfaulty, _⟩
      exact hnone setting cause hfaulty
  · rw [← hmem fault]
    constructor
    · rintro ⟨others, ⟨_, hothers⟩, hfault⟩
      rw [hfails.2] at hothers
      cases hothers
      exact hfault
    · exact fun hfault => ⟨faults, hfails, hfault⟩

theorem reportsFault_of_setting (setting : SettingName) (cause : SettingFault.Cause) :
    ReportsFault (run format surroundings arguments) ⟨setting.text, cause⟩ ↔
      (sources surroundings.environment sorted.options).result setting = .error cause := by
  rw [reportsFault_iff format hsort haccepted hdistinct,
    result_eq_error_iff hdistinct (readable_of_accepted hsort haccepted)]
  constructor
  · rintro ⟨other, cause', hfaulty, heq⟩
    obtain ⟨htext, rfl⟩ := SettingFault.mk.inj heq
    exact SettingName.text_injective htext ▸ hfaulty
  · exact fun hfaulty => ⟨setting, cause, hfaulty, rfl⟩

/-- Nothing but the variables of settings counts in an environment. -/
theorem run_of_sets_iff {environment : Environment} (hother : environment.CaseDistinct)
    (h : ∀ setting text, environment.Sets setting text ↔ surroundings.environment.Sets setting text) :
    run format { surroundings with environment } arguments = run format surroundings arguments := by
  have hresult (setting : SettingName) : (sources environment sorted.options).result setting =
      (sources surroundings.environment sorted.options).result setting :=
    AlikeFor.result_eq ⟨rfl, h setting⟩ hother hdistinct
  have hsame := Settings.resolveDirected_congr unknownNames_sources unknownNames_sources hresult
  rw [← load_of_accepted hsort haccepted, ← load_of_accepted hsort haccepted] at hsame
  rw [run, run, haccepted]
  simp only [execute, settingsOf, hsame]
  rfl

end

/-- **Settings field by field.** Let a call be accepted, in an environment where no two names differ in letter
case alone, and let the formatter be any. The run fails on its settings just if some setting has no option and a variable that cannot be
converted, and it reports these settings and no others. Otherwise it goes on with settings in force, in which
each one has the value of its last option, or else the converted value of its variable, or else its default.
Another call with the same options and the same variable for a setting settles it in the same way, whatever
else it has. Variables that belong to no setting do not matter. -/
theorem settings_by_field (format : Document.PartialFormatter) {surroundings : Surroundings}
    {arguments : List Text} {sorted : Sorted} {invocation : Invocation} (hsort : sort arguments = .ok sorted)
    (haccepted : Invocation.ofArguments surroundings.files arguments = .ok (some invocation))
    (hdistinct : surroundings.environment.CaseDistinct) :
    ((∃ faults, FailsOnSettings (run format surroundings arguments) faults) ↔
      ∃ setting cause, Faulty surroundings.environment sorted.options setting cause) ∧
    (∀ fault, ReportsFault (run format surroundings arguments) fault ↔
      ∃ setting cause, Faulty surroundings.environment sorted.options setting cause ∧
        fault = ⟨setting.text, cause⟩) ∧
    ((∀ setting cause, ¬Faulty surroundings.environment sorted.options setting cause) →
      ∃ settings, InForce surroundings invocation settings ∧
        run format surroundings arguments = proceed format surroundings invocation settings) ∧
    (∀ settings, InForce surroundings invocation settings → ∀ setting value,
      Effective surroundings.environment sorted.options setting value ↔ value = settings.values setting) ∧
    (∀ other others sorted' invocation', sort others = .ok sorted' →
      Invocation.ofArguments other.files others = .ok (some invocation') → other.environment.CaseDistinct →
      ∀ setting,
        AlikeFor setting surroundings.environment other.environment sorted.options sorted'.options →
        (∀ settings settings', InForce surroundings invocation settings → InForce other invocation' settings' →
          settings.values setting = settings'.values setting) ∧
        ∀ cause, ReportsFault (run format surroundings arguments) ⟨setting.text, cause⟩ ↔
          ReportsFault (run format other others) ⟨setting.text, cause⟩) ∧
    ∀ environment : Environment, environment.CaseDistinct →
      (∀ setting text, environment.Sets setting text ↔ surroundings.environment.Sets setting text) →
      run format { surroundings with environment } arguments = run format surroundings arguments := by
  refine ⟨fails_iff format hsort haccepted hdistinct, reportsFault_iff format hsort haccepted hdistinct, ?_,
    fun settings h => effective_iff_of_inForce hsort haccepted hdistinct h, ?_,
    fun environment => run_of_sets_iff format hsort haccepted hdistinct⟩
  · intro hnone
    rcases settings_cases format hsort haccepted hdistinct with ⟨settings, hforce, hrun, _⟩ |
      ⟨faults, hfails, _⟩
    · exact ⟨settings, hforce, hrun⟩
    · obtain ⟨setting, cause, hfaulty⟩ := (fails_iff format hsort haccepted hdistinct).mp ⟨faults, hfails⟩
      exact absurd hfaulty (hnone setting cause)
  · intro other others sorted' invocation' hsort' haccepted' hdistinct' setting halike
    have hresult := halike.result_eq hdistinct hdistinct'
    refine ⟨fun settings settings' hforce hforce' => ?_, fun cause => ?_⟩
    · rw [(inForce_iff hsort haccepted).mp hforce setting,
        (inForce_iff hsort' haccepted').mp hforce' setting] at hresult
      exact Except.ok.inj hresult
    · rw [reportsFault_of_setting format hsort haccepted hdistinct,
        reportsFault_of_setting format hsort' haccepted' hdistinct', hresult]

/-- Variables in several letter cases, two of which cannot be converted, and one that belongs to no setting. -/
def mixedSurroundings : Surroundings where
  environment := [("externgen_STRICT", "Off"), ("EXTERNGEN_BEAUTIFY", "perhaps"),
    ("EXTERNGEN_INDENT_SIZE", "wide"), ("Externgen_Validate_Input", "1"), ("EXTERNGEN_DEBUG", "perhaps")]
  files := (FileTree.mk []).add "a.json" (.file {} (PathName.bytes "\x7b\x7d"))

def mixedArguments : List Text :=
  ["a.json", "--indent-size", "4", "--beautify", "--no-beautify", "--indent-size=0"]

def mixedSorted : Sorted where
  options := [.slot .indentSize "4", .flag .beautify true, .flag .beautify false, .slot .indentSize "0"]
  words := ["a.json"]

/-- The last options hide both variables that cannot be converted. Without those for one of them, the run
reports it. -/
theorem settings_by_field_mixed :
    (sort mixedArguments = .ok mixedSorted ∧ mixedSurroundings.environment.CaseDistinct ∧
      ∃ invocation, Invocation.ofArguments mixedSurroundings.files mixedArguments = .ok (some invocation) ∧
        InForce mixedSurroundings invocation ⟨false, false, 0, true⟩ ∧
        ∀ setting, Effective mixedSurroundings.environment mixedSorted.options setting
          ((⟨false, false, 0, true⟩ : Settings).values setting)) ∧
    ReportsFault (run Document.boundedLayout mixedSurroundings ["a.json", "--indent-size=0"])
      ⟨SettingName.beautify.text, .flagValue⟩ := by
  have hdistinct : mixedSurroundings.environment.CaseDistinct := by
    unfold Environment.CaseDistinct
    decide +kernel
  constructor
  · have hsort : sort mixedArguments = .ok mixedSorted := by rfl
    have haccepted : Invocation.ofArguments mixedSurroundings.files mixedArguments =
        .ok (some (Invocation.ofSorted mixedSorted)) := by rfl
    have hforce : InForce mixedSurroundings (Invocation.ofSorted mixedSorted) ⟨false, false, 0, true⟩ := by
      unfold InForce
      decide +kernel
    obtain ⟨_, _, _, heffective, _⟩ := settings_by_field Document.boundedLayout hsort haccepted hdistinct
    exact ⟨hsort, hdistinct, _, haccepted, hforce, fun setting => (heffective _ hforce setting _).mpr rfl⟩
  · have hsort : sort ["a.json", "--indent-size=0"] = .ok ⟨[.slot .indentSize "0"], ["a.json"]⟩ := by rfl
    have haccepted : Invocation.ofArguments mixedSurroundings.files ["a.json", "--indent-size=0"] =
        .ok (some (Invocation.ofSorted ⟨[.slot .indentSize "0"], ["a.json"]⟩)) := by rfl
    obtain ⟨_, hreports, _⟩ := settings_by_field Document.boundedLayout hsort haccepted hdistinct
    refine (hreports _).mpr ⟨.beautify, .flagValue, ⟨?_, "perhaps", ⟨"EXTERNGEN_BEAUTIFY", ?_, ?_⟩, ?_⟩, rfl⟩
    · unfold LeavesOpen
      decide
    · simp [mixedSurroundings]
    · decide +kernel
    · rfl

end Externs.Command
