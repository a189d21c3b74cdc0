import Externs.Command.Arguments
import Externs.Proofs.SettingResults

/-!
# Options, variables and defaults

A setting has the value of the last option for it, or else that of its variable, or else its default. Which
of these it is can be told from the options and the variable of this one setting.

* `Argument.IsLastFor`, `Argument.LeavesOpen`: the last option for a setting, and a setting without options;
* `Invocation.overridesOf_eq`: the overrides of a call are the values of the last options;
* `Environment.Sets`: the variable of a setting, in any letter case;
* `Command.Effective`, `Command.Faulty`: the value of a setting, and a setting whose variable is refused;
* `Command.result_eq_ok_iff`, `Command.result_eq_error_iff`: the sources of a call come to just these;
* `Command.AlikeFor.result_eq`: nothing but what is for a setting counts for it.
-/

namespace Externs

set_option autoImplicit false

/-! ## Options -/

namespace Argument

/-- The setting that a flag is for. -/
def Flag.setting? : Flag → Option SettingName
  | .strict => some .strict
  | .beautify => some .beautify
  | .validate => some .validateInput
  | .debug => none

/-- The setting that an option is for. -/
def Given.setting? : Given → Option SettingName
  | .flag switch _ => switch.setting?
  | .slot .indentSize _ => some .indentSize
  | .slot .output _ | .help => none

/-- The value that an option gives to its setting. -/
def Given.value? : Given → Option Json
  | .flag _ on => some (.bool on)
  | .slot .indentSize text => (Integer.ofOption? text).map Json.int
  | .slot .output _ | .help => none

theorem convert_value? {given : Given} {setting : SettingName} {value : Json}
    (hsetting : given.setting? = some setting) (hvalue : given.value? = some value) :
    setting.convert value = .ok value := by
  cases given with
  | flag flag on =>
    cases hvalue
    cases flag <;> cases hsetting <;> rfl
  | slot slot text =>
    cases slot with
    | output => cases hvalue
    | indentSize =>
      cases hsetting
      obtain ⟨n, _, rfl⟩ := Option.map_eq_some_iff.mp hvalue
      rfl
  | help => cases hvalue

/-- The option is for the setting, and no later one is. -/
def IsLastFor (setting : SettingName) (options : List Given) (given : Given) : Prop :=
  ∃ before after, options = before ++ given :: after ∧ given.setting? = some setting ∧
    ∀ later ∈ after, later.setting? ≠ some setting

theorem IsLastFor.setting?_eq {setting : SettingName} {options : List Given} {given : Given}
    (h : IsLastFor setting options given) : given.setting? = some setting := by
  obtain ⟨_, _, _, hsetting, _⟩ := h
  exact hsetting

theorem IsLastFor.mem {setting : SettingName} {options : List Given} {given : Given}
    (h : IsLastFor setting options given) : given ∈ options := by
  obtain ⟨before, after, rfl, _⟩ := h
  exact List.mem_append_right _ List.mem_cons_self

/-- No option is for the setting. -/
def LeavesOpen (setting : SettingName) (options : List Given) : Prop :=
  ∀ given ∈ options, given.setting? ≠ some setting

/-- The last option for a setting, if there is one. -/
def lastFor? (setting : SettingName) (options : List Given) : Option Given :=
  options.reverse.find? fun given => given.setting? = some setting

theorem lastFor?_eq_some_iff {setting : SettingName} {options : List Given} {given : Given} :
    lastFor? setting options = some given ↔ IsLastFor setting options given := by
  rw [lastFor?, List.find?_eq_some_iff_append, decide_eq_true_iff]
  constructor
  · rintro ⟨hsetting, after, before, hoptions, hlater⟩
    refine ⟨before.reverse, after.reverse, ?_, hsetting, ?_⟩
    · simpa using congrArg List.reverse hoptions
    · intro later hmem
      simpa using hlater later (List.mem_reverse.mp hmem)
  · rintro ⟨before, after, rfl, hsetting, hlater⟩
    refine ⟨hsetting, after.reverse, before.reverse, by simp, ?_⟩
    intro later hmem
    simpa using hlater later (List.mem_reverse.mp hmem)

theorem lastFor?_eq_none_iff {setting : SettingName} {options : List Given} :
    lastFor? setting options = none ↔ LeavesOpen setting options := by
  rw [lastFor?, List.find?_eq_none]
  simp [LeavesOpen]

theorem lastFor?_filter (setting : SettingName) (options : List Given) :
    lastFor? setting options = (options.filter fun given => given.setting? = some setting).getLast? := by
  rw [List.getLast?_filter]
  rfl

theorem Flag.setting?_inj {flag other : Flag} {setting : SettingName} (h : flag.setting? = some setting)
    (hother : other.setting? = some setting) : other = flag := by
  cases flag <;> cases h <;> cases other <;> cases hother <;> rfl

/-- What is selected of the first option for a setting is its value, if the value is read off what is
selected and nothing is selected of other options. -/
theorem findSome?_bind {α : Type} {select : Given → Option α} {read : α → Option Json} {setting : SettingName}
    (hown : ∀ given : Given, given.setting? = some setting → (select given).map read = some given.value?)
    (hother : ∀ given : Given, given.setting? ≠ some setting → select given = none) (options : List Given) :
    (options.findSome? select).bind read =
      (options.find? fun given => given.setting? = some setting).bind Given.value? := by
  induction options with
  | nil => rfl
  | cons given rest ih =>
    by_cases hgiven : given.setting? = some setting
    · obtain ⟨selected, hselected, hread⟩ := Option.map_eq_some_iff.mp (hown given hgiven)
      simp [hgiven, hselected, hread]
    · simpa [hgiven, hother given hgiven] using ih

theorem map_lastState? {flag : Flag} {setting : SettingName} (h : flag.setting? = some setting)
    (options : List Given) :
    (lastState? flag options).map Json.bool = (lastFor? setting options).bind Given.value? := by
  rw [Option.map_eq_bind]
  refine findSome?_bind (fun given hgiven => ?_) (fun given hgiven => ?_) options.reverse
  · cases given with
    | flag other on => simp [Flag.setting?_inj h hgiven, Given.value?]
    | slot slot text => cases flag <;> cases h <;> cases slot <;> cases hgiven
    | help => cases hgiven
  · cases given with
    | flag other on =>
      have hother : other ≠ flag := fun heq => hgiven (heq ▸ h)
      simp [hother]
    | slot | help => rfl

theorem map_lastValue? (options : List Given) :
    ((lastValue? .indentSize options).bind Integer.ofOption?).map Json.int =
      (lastFor? .indentSize options).bind Given.value? := by
  rw [Option.map_bind]
  refine findSome?_bind (fun given hgiven => ?_) (fun given hgiven => ?_) options.reverse
  · cases given with
    | flag flag on => cases flag <;> cases hgiven
    | slot slot text =>
      cases slot with
      | output => cases hgiven
      | indentSize => rfl
    | help => cases hgiven
  · cases given with
    | slot slot text =>
      cases slot with
      | output => rfl
      | indentSize => exact absurd rfl hgiven
    | flag | help => rfl

end Argument

namespace Invocation

open Argument

/-- The overrides of a call: the settings that its options are for, with the values of the last ones. -/
theorem overridesOf_eq (options : List Given) :
    overridesOf options = SettingName.all.filterMap fun setting =>
      ((lastFor? setting options).bind Given.value?).map (setting.text, ·) := by
  have hflag (flag : Flag) (setting : SettingName) (h : flag.setting? = some setting) :
      (lastState? flag options).map (fun on => (setting.text, Json.bool on)) =
        ((lastFor? setting options).bind Given.value?).map (setting.text, ·) := by
    rw [← map_lastState? h options, Option.map_map]
    rfl
  have hindent : ((lastValue? .indentSize options).bind Integer.ofOption?).map
        (fun n => (SettingName.indentSize.text, Json.int n)) =
      ((lastFor? .indentSize options).bind Given.value?).map (SettingName.indentSize.text, ·) := by
    rw [← map_lastValue? options, Option.map_map]
    rfl
  rw [List.filterMap_eq_flatMap_toList, overridesOf]
  simp only [SettingName.all, List.flatMap_cons, List.flatMap_nil, List.append_nil, List.append_assoc]
  rw [hflag .strict .strict rfl, hflag .beautify .beautify rfl, hflag .validate .validateInput rfl, hindent]

theorem mem_overridesOf_iff {options : List Given} {entry : Text × Json} :
    entry ∈ overridesOf options ↔ ∃ setting : SettingName, entry.1 = setting.text ∧
      (lastFor? setting options).bind Given.value? = some entry.2 := by
  rw [overridesOf_eq, List.mem_filterMap]
  constructor
  · rintro ⟨setting, _, hentry⟩
    obtain ⟨value, hvalue, rfl⟩ := Option.map_eq_some_iff.mp hentry
    exact ⟨setting, rfl, hvalue⟩
  · rintro ⟨setting, hname, hvalue⟩
    refine ⟨setting, setting.mem_all, ?_⟩
    rw [hvalue, Option.map_some, ← hname]

end Invocation

/-! ## Variables -/

namespace Environment

/-- No two variables have names that differ in letter case alone. -/
def CaseDistinct (environment : Environment) : Prop :=
  (environment.map fun entry => entry.1.toLower).Nodup

/-- The variable of a setting, whose name may be written in any letter case, is set to a text. -/
def Sets (environment : Environment) (setting : SettingName) (text : Text) : Prop :=
  ∃ name, (name, text) ∈ environment ∧ name.toLower = Text.toLower ("EXTERNGEN_" ++ setting.text)

end Environment

/-! ## Sources of a call -/

namespace Command

open Argument

/-- Where the settings of a run come from. -/
def sources (environment : Environment) (options : List Given) : Settings.Sources where
  overrides := Invocation.overridesOf options
  environment := environment

section

variable {environment : Environment} {options : List Given} {setting : SettingName}

theorem named_sources : ∀ entry ∈ (sources environment options).overrides,
    ∃ setting : SettingName, entry.1 = setting.text := by
  intro entry hentry
  obtain ⟨setting, hname, _⟩ := Invocation.mem_overridesOf_iff.mp hentry
  exact ⟨setting, hname⟩

theorem unknownNames_sources : (sources environment options).unknownNames = [] :=
  Settings.Sources.unknownNames_of_named named_sources rfl

/-- The value that the last option for a setting gives to it. -/
theorem override?_sources :
    (sources environment options).override? setting = (lastFor? setting options).bind Given.value? := by
  rw [Settings.Sources.override?]
  cases hfind : (sources environment options).overrides.find? _ with
  | none =>
    cases hvalue : (lastFor? setting options).bind Given.value? with
    | none => rfl
    | some value =>
      have hmem : (setting.text, value) ∈ (sources environment options).overrides :=
        Invocation.mem_overridesOf_iff.mpr ⟨setting, rfl, hvalue⟩
      exact absurd (decide_eq_true setting.toLower_text) (List.find?_eq_none.mp hfind _ hmem)
  | some entry =>
    obtain ⟨other, hname, hvalue⟩ := Invocation.mem_overridesOf_iff.mp (List.mem_of_find?_eq_some hfind)
    have hfound := List.find?_some hfind
    have hother : entry.1.toLower = setting.text := of_decide_eq_true hfound
    rw [hname, other.toLower_text] at hother
    rw [Option.map_some, ← hvalue, SettingName.text_injective hother]

/-- The text that the variable of a setting is set to. -/
theorem lastNamed?_sources (h : environment.CaseDistinct) {text : Text} :
    (sources environment options).lastNamed? ((sources environment options).variableOf setting)
        (sources environment options).environmentVariables = some text ↔ environment.Sets setting text := by
  have hall : (sources environment options).environmentVariables = environment :=
    List.filter_eq_self.mpr fun _ _ => rfl
  rw [Settings.Sources.lastNamed?, hall]
  cases hfind : (List.reverse environment).find? _ with
  | none =>
    refine iff_of_false (by simp) ?_
    rintro ⟨name, hmem, hname⟩
    exact List.find?_eq_none.mp hfind _ (List.mem_reverse.mpr hmem) (decide_eq_true hname)
  | some entry =>
    have hfound := List.find?_some hfind
    have hentry := List.mem_reverse.mp (List.mem_of_find?_eq_some hfind)
    have hlower : entry.1.toLower = Text.toLower ("EXTERNGEN_" ++ setting.text) := of_decide_eq_true hfound
    rw [Option.map_some, Option.some_inj]
    constructor
    · rintro rfl
      exact ⟨entry.1, hentry, hlower⟩
    · -- No other name is the same in lower case, so the last match is the only one.
      rintro ⟨name, hmem, hname⟩
      rw [List.inj_on_of_nodup_map h hentry hmem (hlower.trans hname.symm)]

theorem override?_of_leavesOpen (h : LeavesOpen setting options) :
    (sources environment options).override? setting = none := by
  rw [override?_sources, lastFor?_eq_none_iff.mpr h, Option.bind_none]

/-- The last option for a setting decides, whatever the environment says. -/
theorem result_of_option {given : Given} {value : Json} (hlast : IsLastFor setting options given)
    (hvalue : given.value? = some value) : (sources environment options).result setting = .ok value := by
  have hfound : (sources environment options).valueOf? setting = some value := by
    rw [Settings.Sources.valueOf?, override?_sources, lastFor?_eq_some_iff.mpr hlast, Option.bind_some, hvalue]
  rw [Settings.Sources.result_of_some hfound, convert_value? hlast.setting?_eq hvalue]

theorem result_of_variable (h : environment.CaseDistinct) (hopen : LeavesOpen setting options) {text : Text}
    (hset : environment.Sets setting text) :
    (sources environment options).result setting = setting.convert (.str text) := by
  apply Settings.Sources.result_of_some
  rw [Settings.Sources.valueOf?, override?_of_leavesOpen hopen]
  simp only [(lastNamed?_sources h).mpr hset]
  rfl

theorem result_of_unset (h : environment.CaseDistinct) (hopen : LeavesOpen setting options)
    (hunset : ∀ text, ¬environment.Sets setting text) :
    (sources environment options).result setting = .ok (({} : Settings).values setting) := by
  have hnone : (sources environment options).lastNamed? ((sources environment options).variableOf setting)
      (sources environment options).environmentVariables = none := by
    rw [Option.eq_none_iff_forall_ne_some]
    exact fun text hsome => hunset text ((lastNamed?_sources h).mp hsome)
  apply Settings.Sources.result_of_none
  rw [Settings.Sources.valueOf?, override?_of_leavesOpen hopen]
  simp only [hnone]
  rfl

end

/-! ## Values and faults of settings -/

/-- The value of a setting in a run: that of the last option for it, or else that of its variable, or else
the default. -/
inductive Effective (environment : Environment) (options : List Given) (setting : SettingName) : Json → Prop
  | ofOption {given : Given} {value : Json} :
    IsLastFor setting options given → given.value? = some value → Effective environment options setting value
  | ofVariable {text : Text} {value : Json} :
    LeavesOpen setting options → environment.Sets setting text → setting.convert (.str text) = .ok value →
      Effective environment options setting value
  | ofDefault :
    LeavesOpen setting options → (∀ text, ¬environment.Sets setting text) →
      Effective environment options setting (({} : Settings).values setting)

/-- No option is for the setting, and the text of its variable cannot be converted. -/
def Faulty (environment : Environment) (options : List Given) (setting : SettingName)
    (cause : SettingFault.Cause) : Prop :=
  LeavesOpen setting options ∧
    ∃ text, environment.Sets setting text ∧ setting.convert (.str text) = .error cause

/-- The last option for each setting has a value. -/
def Readable (options : List Given) : Prop :=
  ∀ setting given, IsLastFor setting options given → ∃ value, given.value? = some value

section

variable {environment : Environment} {options : List Given} {setting : SettingName}

/-- A setting has a last option, or else a variable, or neither. -/
theorem source_cases (setting : SettingName) (environment : Environment) (options : List Given) :
    (∃ given, IsLastFor setting options given) ∨
      (LeavesOpen setting options ∧ ∃ text, environment.Sets setting text) ∨
      (LeavesOpen setting options ∧ ∀ text, ¬environment.Sets setting text) := by
  cases hlast : lastFor? setting options with
  | some given => exact .inl ⟨given, lastFor?_eq_some_iff.mp hlast⟩
  | none =>
    have hopen := lastFor?_eq_none_iff.mp hlast
    by_cases hset : ∃ text, environment.Sets setting text
    · exact .inr (.inl ⟨hopen, hset⟩)
    · exact .inr (.inr ⟨hopen, not_exists.mp hset⟩)

theorem result_eq_ok_iff (h : environment.CaseDistinct) (hreadable : Readable options) {value : Json} :
    (sources environment options).result setting = .ok value ↔ Effective environment options setting value := by
  constructor
  · intro hresult
    rcases source_cases setting environment options with ⟨given, hlast⟩ | ⟨hopen, text, hset⟩ | ⟨hopen, hunset⟩
    · obtain ⟨chosen, hchosen⟩ := hreadable setting given hlast
      rw [result_of_option hlast hchosen] at hresult
      exact .ofOption hlast (Except.ok.inj hresult ▸ hchosen)
    · rw [result_of_variable h hopen hset] at hresult
      exact .ofVariable hopen hset hresult
    · rw [result_of_unset h hopen hunset] at hresult
      exact Except.ok.inj hresult ▸ .ofDefault hopen hunset
  · rintro (⟨hlast, hvalue⟩ | ⟨hopen, hset, hconvert⟩ | ⟨hopen, hunset⟩)
    · exact result_of_option hlast hvalue
    · rw [result_of_variable h hopen hset, hconvert]
    · exact result_of_unset h hopen hunset

theorem result_eq_error_iff (h : environment.CaseDistinct) (hreadable : Readable options)
    {cause : SettingFault.Cause} :
    (sources environment options).result setting = .error cause ↔ Faulty environment options setting cause := by
  constructor
  · intro hresult
    rcases source_cases setting environment options with ⟨given, hlast⟩ | ⟨hopen, text, hset⟩ | ⟨hopen, hunset⟩
    · obtain ⟨chosen, hchosen⟩ := hreadable setting given hlast
      rw [result_of_option hlast hchosen] at hresult
      cases hresult
    · rw [result_of_variable h hopen hset] at hresult
      exact ⟨hopen, text, hset, hresult⟩
    · rw [result_of_unset h hopen hunset] at hresult
      cases hresult
  · rintro ⟨hopen, text, hset, hconvert⟩
    rw [result_of_variable h hopen hset, hconvert]

end

/-! ## Settings apart from each other -/

/-- Two calls have the same options for a setting, and their environments the same variable. -/
def AlikeFor (setting : SettingName) (environment other : Environment) (options others : List Given) : Prop :=
  (options.filter fun given => given.setting? = some setting) =
      (others.filter fun given => given.setting? = some setting) ∧
    ∀ text, environment.Sets setting text ↔ other.Sets setting text

theorem AlikeFor.result_eq {setting : SettingName} {environment other : Environment}
    {options others : List Given} (h : AlikeFor setting environment other options others)
    (hdistinct : environment.CaseDistinct) (hother : other.CaseDistinct) :
    (sources environment options).result setting = (sources other others).result setting := by
  have hlast : lastFor? setting options = lastFor? setting others := by
    rw [lastFor?_filter, lastFor?_filter, h.1]
  have hvariable : (sources environment options).lastNamed? ((sources environment options).variableOf setting)
        (sources environment options).environmentVariables =
      (sources other others).lastNamed? ((sources other others).variableOf setting)
        (sources other others).environmentVariables := by
    apply Option.ext
    intro text
    rw [lastNamed?_sources hdistinct, lastNamed?_sources hother, h.2]
  rw [Settings.Sources.result, Settings.Sources.result, Settings.Sources.valueOf?, Settings.Sources.valueOf?,
    override?_sources, override?_sources, hlast, hvariable]
  rfl

end Command

end Externs
