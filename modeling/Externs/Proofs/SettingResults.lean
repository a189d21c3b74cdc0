import Externs.Settings.Loading
import Mathlib.Data.List.Nodup

/-!
# Settings one by one

Sources settle each setting by itself: it has the value that is found first, converted to its type, or its
default. All settings together come from the sources just if each one does and no name is out of place.

* `SettingName.convert`: a value as one of the type of a setting;
* `Settings.Sources.result`: what sources come to for one setting;
* `Settings.Sources.mem_faults_iff`: the faults are those of single settings;
* `Settings.resolveDirected_eq_ok_iff`: settings come from sources just if each of them does;
* `Settings.Sources.directed_of_named`: overrides that all name settings direct nothing;
* `Settings.resolveDirected_congr`: only the values of settings and the names out of place count;
* `Dotenv.lookup_resolve`: the last binding of a variable counts;
* `Settings.Sources.Settles`: the value of a setting by the first source that has it;
* `Settings.load_eq_ok_iff`: what is loaded from a caller, a process and a dotenv file.
-/

namespace Externs

set_option autoImplicit false

namespace SettingName

/-- A value as one of the type of a setting. -/
def convert (setting : SettingName) (value : Json) : Except SettingFault.Cause Json :=
  if setting = .indentSize then (Settings.toNumber value).map Json.int
  else (Settings.toFlag value).map Json.bool

theorem number_of_convert {value converted : Json} (h : convert .indentSize value = .ok converted) :
    ∃ n, Settings.toNumber value = .ok n ∧ converted = .int n := by
  rw [convert, if_pos rfl] at h
  cases hnumber : Settings.toNumber value with
  | ok n =>
    rw [hnumber] at h
    exact ⟨n, rfl, (Except.ok.inj h).symm⟩
  | error cause =>
    rw [hnumber] at h
    cases h

theorem flag_of_convert {setting : SettingName} (hne : setting ≠ .indentSize) {value converted : Json}
    (h : setting.convert value = .ok converted) :
    ∃ flag, Settings.toFlag value = .ok flag ∧ converted = .bool flag := by
  rw [convert, if_neg hne] at h
  cases hflag : Settings.toFlag value with
  | ok flag =>
    rw [hflag] at h
    exact ⟨flag, rfl, (Except.ok.inj h).symm⟩
  | error cause =>
    rw [hflag] at h
    cases h

theorem mem_all (setting : SettingName) : setting ∈ all := by
  cases setting <;> decide

theorem text_injective : Function.Injective text := by
  have hnodup : (all.map text).Nodup := by decide
  intro first second h
  exact List.inj_on_of_nodup_map hnodup first.mem_all second.mem_all h

theorem toLower_text (setting : SettingName) : setting.text.toLower = setting.text := by
  cases setting <;> decide

end SettingName

namespace Settings

theorem values_injective : Function.Injective values := by
  intro first second h
  have hstrict := Json.bool.inj (congrFun h .strict)
  have hbeautify := Json.bool.inj (congrFun h .beautify)
  have hindent := Json.int.inj (congrFun h .indentSize)
  have hvalidate := Json.bool.inj (congrFun h .validateInput)
  cases first
  cases second
  simp only at hstrict hbeautify hindent hvalidate
  rw [hstrict, hbeautify, hindent, hvalidate]

namespace Sources

variable {sources : Sources} {setting : SettingName}

/-- What the sources come to for one setting: its value, or why there is none. -/
def result (sources : Sources) (setting : SettingName) : Except SettingFault.Cause Json :=
  (sources.valueOf? setting).elim (.ok (({} : Settings).values setting)) setting.convert

/-- The settings of the sources, where a value that is refused counts as missing. -/
def settled (sources : Sources) : Settings where
  strict := sources.flag .strict true
  beautify := sources.flag .beautify true
  indentSize := sources.number .indentSize 2
  validateInput := sources.flag .validateInput false

theorem result_of_none (h : sources.valueOf? setting = none) :
    sources.result setting = .ok (({} : Settings).values setting) := by
  rw [result, h, Option.elim_none]

theorem result_of_some {value : Json} (h : sources.valueOf? setting = some value) :
    sources.result setting = setting.convert value := by
  rw [result, h, Option.elim_some]

theorem eq_settled_of_result {value : Json} (h : sources.result setting = .ok value) :
    value = sources.settled.values setting := by
  cases hfound : sources.valueOf? setting with
  | none =>
    rw [result_of_none hfound] at h
    obtain rfl := Except.ok.inj h
    cases setting <;> simp [settled, values, flag, number, hfound]
  | some found =>
    rw [result_of_some hfound] at h
    cases setting with
    | indentSize =>
      obtain ⟨n, hnumber, rfl⟩ := SettingName.number_of_convert h
      simp [settled, values, number, hfound, hnumber]
    | strict | beautify | validateInput =>
      obtain ⟨flag, hflag, rfl⟩ := SettingName.flag_of_convert (by decide) h
      simp [settled, values, Sources.flag, hfound, hflag]

theorem faultIn_map {α β : Type} (f : α → β) (converted : Except SettingFault.Cause α) :
    faultOf?.faultIn (converted.map f) = faultOf?.faultIn converted := by
  cases converted <;> rfl

theorem faultIn_eq_some_iff {α : Type} {converted : Except SettingFault.Cause α} {cause : SettingFault.Cause} :
    faultOf?.faultIn converted = some cause ↔ converted = .error cause := by
  cases converted <;> simp [faultOf?.faultIn]

/-- A setting is at fault just if the sources come to no value for it. -/
theorem faultOf?_eq_some_iff {fault : SettingFault} :
    sources.faultOf? setting = some fault ↔
      ∃ cause, sources.result setting = .error cause ∧ fault = ⟨setting.text, cause⟩ := by
  cases hfound : sources.valueOf? setting with
  | none => simp [faultOf?, hfound, result_of_none]
  | some found =>
    have hfault : sources.faultOf? setting =
        (faultOf?.faultIn (setting.convert found)).map (⟨setting.text, ·⟩) := by
      cases setting <;> simp [faultOf?, hfound, SettingName.convert, faultIn_map]
    rw [hfault, result_of_some hfound, Option.map_eq_some_iff]
    exact exists_congr fun cause => and_congr faultIn_eq_some_iff eq_comm

/-! ## All settings -/

/-- If no name is out of place, the faults are those of single settings. -/
theorem faults_of_named (h : sources.unknownNames = []) :
    sources.faults = SettingName.all.filterMap sources.faultOf? := by
  have hoverrides : sources.unknownOverrides = [] := (List.append_eq_nil_iff.mp h).1
  rw [faults, hoverrides, h]
  simp

theorem mem_faults_iff (h : sources.unknownNames = []) (fault : SettingFault) :
    fault ∈ sources.faults ↔
      ∃ setting cause, sources.result setting = .error cause ∧ fault = ⟨setting.text, cause⟩ := by
  rw [faults_of_named h, List.mem_filterMap]
  constructor
  · rintro ⟨setting, _, hfault⟩
    exact ⟨setting, faultOf?_eq_some_iff.mp hfault⟩
  · rintro ⟨setting, hfault⟩
    exact ⟨setting, setting.mem_all, faultOf?_eq_some_iff.mpr hfault⟩

theorem result_of_faults_eq_nil (h : sources.unknownNames = []) (hfaults : sources.faults = [])
    (setting : SettingName) : sources.result setting = .ok (sources.settled.values setting) := by
  cases hresult : sources.result setting with
  | ok value => rw [eq_settled_of_result hresult]
  | error cause =>
    have hmem := (mem_faults_iff h ⟨setting.text, cause⟩).mpr ⟨setting, cause, hresult, rfl⟩
    rw [hfaults] at hmem
    cases hmem

end Sources

open Sources

theorem resolveDirected_of_nil {sources : Sources} (h : sources.faults = []) :
    resolveDirected sources = .ok sources.settled := by
  rw [resolveDirected, h]
  rfl

theorem resolveDirected_of_ne_nil {sources : Sources} (h : sources.faults ≠ []) :
    resolveDirected sources = .error sources.faults := by
  rw [resolveDirected]
  split
  · next hnil => exact absurd hnil h
  · rfl

/-- **Settings come from sources just if each one does.** -/
theorem resolveDirected_eq_ok_iff {sources : Sources} (h : sources.unknownNames = []) {settings : Settings} :
    resolveDirected sources = .ok settings ↔
      ∀ setting, sources.result setting = .ok (settings.values setting) := by
  constructor
  · intro hok setting
    by_cases hfaults : sources.faults = []
    · rw [resolveDirected_of_nil hfaults] at hok
      rw [← Except.ok.inj hok]
      exact result_of_faults_eq_nil h hfaults setting
    · rw [resolveDirected_of_ne_nil hfaults] at hok
      cases hok
  · intro hresult
    have hfaults : sources.faults = [] := by
      rw [List.eq_nil_iff_forall_not_mem]
      intro fault hmem
      obtain ⟨setting, cause, herror, _⟩ := (mem_faults_iff h fault).mp hmem
      rw [hresult setting] at herror
      cases herror
    rw [resolveDirected_of_nil hfaults]
    refine congrArg Except.ok (values_injective (funext fun setting => ?_))
    exact (eq_settled_of_result (hresult setting)).symm

theorem mem_of_resolveDirected_eq_error {sources : Sources} (h : sources.unknownNames = [])
    {faults : List SettingFault} (herror : resolveDirected sources = .error faults) :
    faults ≠ [] ∧ ∀ fault, fault ∈ faults ↔
      ∃ setting cause, sources.result setting = .error cause ∧ fault = ⟨setting.text, cause⟩ := by
  by_cases hfaults : sources.faults = []
  · rw [resolveDirected_of_nil hfaults] at herror
    cases herror
  · rw [resolveDirected_of_ne_nil hfaults] at herror
    cases herror
    exact ⟨hfaults, mem_faults_iff h⟩

/-- Sources that come to the same for each setting give the same settings, or the same faults. -/
theorem resolveDirected_congr {first second : Sources} (hfirst : first.unknownNames = [])
    (hsecond : second.unknownNames = []) (h : ∀ setting, first.result setting = second.result setting) :
    resolveDirected first = resolveDirected second := by
  have hfaults : first.faults = second.faults := by
    rw [faults_of_named hfirst, faults_of_named hsecond]
    congr 1
    funext setting
    apply Option.ext
    intro fault
    rw [faultOf?_eq_some_iff, faultOf?_eq_some_iff, h setting]
  -- Without faults the settings agree one by one; otherwise the faults are the result.
  by_cases hnil : first.faults = []
  · rw [resolveDirected_of_nil hnil]
    refine ((resolveDirected_eq_ok_iff hsecond).mpr fun setting => ?_).symm
    rw [← h setting]
    exact result_of_faults_eq_nil hfirst hnil setting
  · rw [resolveDirected_of_ne_nil hnil, resolveDirected_of_ne_nil (hfaults ▸ hnil), hfaults]

/-! ## Names -/

theorem head?_of_mem_directives : ∀ name ∈ directives, name.head? = some (.scalar '_') := by
  decide +kernel

theorem text_not_mem_directives (setting : SettingName) : setting.text ∉ directives := by
  -- The first characters tell them apart, so the texts need not be compared.
  intro hmem
  have hhead := head?_of_mem_directives _ hmem
  cases setting <;> exact absurd hhead (by decide)

namespace Sources

variable {sources : Sources} (h : ∀ entry ∈ sources.overrides, ∃ setting : SettingName, entry.1 = setting.text)
include h

theorem lookup_directive {name : Text} (hname : name ∈ directives) :
    Assoc.lookup name sources.overrides = none := by
  cases hlookup : Assoc.lookup name sources.overrides with
  | none => rfl
  | some value =>
    obtain ⟨setting, rfl⟩ := h _ (Assoc.mem_of_lookup hlookup)
    exact absurd hname (text_not_mem_directives setting)

/-- Overrides that all name settings direct nothing. -/
theorem directed_of_named : sources.directed = sources := by
  have hnull (name : Text) (hname : name ∈ directives) : Json.field name sources.overrides = .null := by
    rw [Json.field, lookup_directive h hname]
    rfl
  have hfile : Assoc.hasKey fileDirective sources.overrides = false := by
    rw [Assoc.hasKey, lookup_directive h (by simp [directives])]
    rfl
  have hstem := hnull stemDirective (by simp [directives])
  have htarget := hnull stemTargetDirective (by simp [directives])
  have hcase := hnull caseDirective (by simp [directives])
  have hempty := hnull emptyDirective (by simp [directives])
  have hword := hnull nullDirective (by simp [directives])
  rw [directed]
  simp only [hstem, htarget, hcase, hempty, hword, hfile]
  rw [List.filter_eq_self.mpr]
  · rfl
  · intro entry hentry
    obtain ⟨setting, hsetting⟩ := h entry hentry
    simpa [hsetting] using text_not_mem_directives setting

theorem unknownOverrides_of_named : sources.unknownOverrides = [] := by
  rw [unknownOverrides, List.filter_eq_nil_iff]
  intro name hname hunknown
  obtain ⟨entry, hentry, rfl⟩ := List.mem_map.mp hname
  obtain ⟨setting, hsetting⟩ := h entry hentry
  have hne := List.all_eq_true.mp hunknown setting setting.mem_all
  rw [hsetting, setting.toLower_text] at hne
  simp at hne

theorem unknownNames_of_named (hdotenv : sources.dotenv = []) : sources.unknownNames = [] := by
  have hvariables : sources.unknownVariables = [] := by
    simp [unknownVariables, dotenvVariables, hdotenv, Assoc.merge]
  rw [unknownNames, hvariables, unknownOverrides_of_named h]
  rfl

end Sources

end Settings

/-! ## Loading -/

namespace Dotenv

variable {environment : Environment} {name : Text}

theorem lookup_add_self (known : Assoc (Option Text)) (value : Option Text) :
    Assoc.lookup name (add environment known (name, value)) =
      some (value.map (expand (valueIn environment known))) :=
  Assoc.lookup_insert_self name _ known

/-- Bindings of other variables leave a variable as it is. -/
theorem lookup_foldl_add {later : List Binding} (h : ∀ binding ∈ later, binding.1 ≠ name)
    (known : Assoc (Option Text)) :
    Assoc.lookup name (later.foldl (add environment) known) = Assoc.lookup name known := by
  induction later generalizing known with
  | nil => rfl
  | cons binding later ih =>
    have hne : name ≠ binding.1 := (h binding List.mem_cons_self).symm
    rw [List.foldl_cons, ih fun other hother => h other (List.mem_cons_of_mem _ hother)]
    exact Assoc.lookup_insert_of_ne hne _ known

/-- **The last binding of a variable counts.** References in its value see the bindings before it, and then the
environment. -/
theorem lookup_resolve (earlier : List Binding) (value : Option Text) {later : List Binding}
    (h : ∀ binding ∈ later, binding.1 ≠ name) :
    Assoc.lookup name (resolve environment (earlier ++ (name, value) :: later)) =
      some (value.map (expand (valueIn environment (resolve environment earlier)))) := by
  rw [resolve, List.foldl_append, List.foldl_cons, lookup_foldl_add h]
  exact lookup_add_self _ value

end Dotenv

namespace Settings

open Sources

/-- The value of a setting by the sources: that of the caller, or else that of its variable in the environment, or
else that of its variable in the dotenv file, or else the default. A source that is passed over may hold
anything. -/
inductive Sources.Settles (sources : Sources) (setting : SettingName) : Json → Prop
  | ofOverride {given value : Json} :
    sources.override? setting = some given → setting.convert given = .ok value → Settles sources setting value
  | ofVariable {text : Text} {value : Json} :
    sources.override? setting = none →
      sources.lastNamed? (sources.variableOf setting) sources.environmentVariables = some text →
      setting.convert (sources.variableValue text) = .ok value → Settles sources setting value
  | ofDotenv {text : Text} {value : Json} :
    sources.override? setting = none →
      sources.lastNamed? (sources.variableOf setting) sources.environmentVariables = none →
      sources.lastNamed? (sources.variableOf setting) sources.dotenvVariables = some (some text) →
      setting.convert (sources.variableValue text) = .ok value → Settles sources setting value
  | ofDefault :
    sources.override? setting = none →
      sources.lastNamed? (sources.variableOf setting) sources.environmentVariables = none →
      (∀ text, sources.lastNamed? (sources.variableOf setting) sources.dotenvVariables ≠ some (some text)) →
      Settles sources setting (({} : Settings).values setting)

namespace Sources

variable {sources : Sources} {setting : SettingName}

theorem valueOf?_of_override {value : Json} (h : sources.override? setting = some value) :
    sources.valueOf? setting = some value := by
  simp only [valueOf?, h]

theorem valueOf?_of_variable {text : Text} (hoverride : sources.override? setting = none)
    (h : sources.lastNamed? (sources.variableOf setting) sources.environmentVariables = some text) :
    sources.valueOf? setting = some (sources.variableValue text) := by
  simp only [valueOf?, hoverride, h]

theorem valueOf?_of_dotenv (hoverride : sources.override? setting = none)
    (h : sources.lastNamed? (sources.variableOf setting) sources.environmentVariables = none) :
    sources.valueOf? setting =
      ((sources.lastNamed? (sources.variableOf setting) sources.dotenvVariables).bind id).map
        sources.variableValue := by
  simp only [valueOf?, hoverride, h]

/-- Sources come to a value for a setting just if the first source that has it does. -/
theorem result_eq_ok_iff_settles {value : Json} :
    sources.result setting = .ok value ↔ sources.Settles setting value := by
  constructor
  · intro h
    cases hoverride : sources.override? setting with
    | some given =>
      rw [result_of_some (valueOf?_of_override hoverride)] at h
      exact .ofOverride hoverride h
    | none =>
      cases hvariable : sources.lastNamed? (sources.variableOf setting) sources.environmentVariables with
      | some text =>
        rw [result_of_some (valueOf?_of_variable hoverride hvariable)] at h
        exact .ofVariable hoverride hvariable h
      | none =>
        have hvalue := valueOf?_of_dotenv hoverride hvariable
        cases hdotenv : (sources.lastNamed? (sources.variableOf setting) sources.dotenvVariables).bind id with
        | some text =>
          rw [hdotenv, Option.map_some] at hvalue
          rw [result_of_some hvalue] at h
          exact .ofDotenv hoverride hvariable (Option.join_eq_some_iff.mp hdotenv) h
        | none =>
          rw [hdotenv, Option.map_none] at hvalue
          rw [result_of_none hvalue] at h
          cases h
          refine .ofDefault hoverride hvariable fun text hsome => ?_
          rw [hsome] at hdotenv
          cases hdotenv
  · rintro (⟨hoverride, h⟩ | ⟨hoverride, hvariable, h⟩ | ⟨hoverride, hvariable, hdotenv, h⟩ |
      ⟨hoverride, hvariable, hdotenv⟩)
    · rw [result_of_some (valueOf?_of_override hoverride), h]
    · rw [result_of_some (valueOf?_of_variable hoverride hvariable), h]
    · have hvalue := valueOf?_of_dotenv hoverride hvariable
      rw [hdotenv] at hvalue
      rw [result_of_some hvalue]
      exact h
    · have hvalue := valueOf?_of_dotenv hoverride hvariable
      have hnone : (sources.lastNamed? (sources.variableOf setting) sources.dotenvVariables).bind id = none := by
        rw [Option.eq_none_iff_forall_ne_some]
        exact fun text hsome => hdotenv text (Option.join_eq_some_iff.mp hsome)
      rw [hnone, Option.map_none] at hvalue
      exact result_of_none hvalue

theorem unknownNames_of_faults_eq_nil (h : sources.faults = []) : sources.unknownNames = [] := by
  rw [faults] at h
  split at h
  · cases h
  · exact List.map_eq_nil_iff.mp (List.append_eq_nil_iff.mp h).2

end Sources

/-- **Settings are loaded just if all names are in place and the first source that has a setting settles it.** The
sources are those that the caller, the process and the dotenv file make, as the caller wants them to be read. -/
theorem load_eq_ok_iff {overrides : Assoc Json} {environment : Environment} {stem dotenv : Option Text}
    {settings : Settings} :
    load overrides environment stem dotenv = .ok settings ↔
      (Sources.gather overrides environment stem dotenv).directed.unknownNames = [] ∧
        ∀ setting, (Sources.gather overrides environment stem dotenv).directed.Settles setting
          (settings.values setting) := by
  simp only [← result_eq_ok_iff_settles]
  constructor
  · intro h
    have hnames : (Sources.gather overrides environment stem dotenv).directed.unknownNames = [] := by
      by_cases hfaults : (Sources.gather overrides environment stem dotenv).directed.faults = []
      · exact unknownNames_of_faults_eq_nil hfaults
      · rw [load, resolve, resolveDirected_of_ne_nil hfaults] at h
        cases h
    exact ⟨hnames, (resolveDirected_eq_ok_iff hnames).mp h⟩
  · rintro ⟨hnames, hresult⟩
    exact (resolveDirected_eq_ok_iff hnames).mpr hresult

end Settings

end Externs
