import Externs.Environment
import Externs.Json
import Externs.Number.Integer
import Externs.Text.LetterCase

/-!
# Settings

Each setting is taken from the first source that has it: the caller, the environment, the dotenv file,
the default. Only then is its value converted, so that a bad value in a later source is never seen.

* `Settings`, `SettingName`: the settings and their names;
* `SettingFault`: why a setting is refused;
* `Settings.toFlag`, `Settings.toNumber`: conversions of values;
* `Settings.Sources`: where settings come from;
* `Settings.Sources.directed`: the sources as some of the overrides want them to be read;
* `Settings.resolve`: the settings, or all that is wrong with them.
-/

namespace Externs

set_option autoImplicit false

/-- The settings of a document. -/
structure Settings where
  /-- Whether the directive for strict mode follows the banner. -/
  strict : Bool := true
  /-- Whether the document is formatted. -/
  beautify : Bool := true
  /-- The width of an indentation in a formatted document. -/
  indentSize : Int := 2
  /-- Whether malformed trees are refused. -/
  validateInput : Bool := false
  deriving DecidableEq

/-- The settings by name. -/
inductive SettingName where
  | strict
  | beautify
  | indentSize
  | validateInput
  deriving DecidableEq

namespace SettingName

/-- Every setting once. -/
def all : List SettingName := [.strict, .beautify, .indentSize, .validateInput]

/-- The name of a setting in small letters. -/
def text : SettingName → Text
  | .strict => "strict"
  | .beautify => "beautify"
  | .indentSize => "indent_size"
  | .validateInput => "validate_input"

end SettingName

/-- Why a value is refused. -/
inductive SettingFault.Cause where
  /-- A text or a number that stands for no flag. -/
  | flagValue
  /-- A value of a type that cannot be a flag. -/
  | flagType
  /-- A text that is no integer. -/
  | numberText
  /-- A number with a fraction where an integer is wanted. -/
  | numberFraction
  /-- An integer of too many digits, or a whole number that is too large. -/
  | numberSize
  /-- An infinity, or not a number. -/
  | numberInfinite
  /-- A value of a type that cannot be a number. -/
  | numberType
  /-- A text with a lone surrogate in it. -/
  | brokenText
  /-- There is no setting of that name. -/
  | unknownName
  deriving DecidableEq

/-- A refused setting. -/
structure SettingFault where
  name : Text
  cause : SettingFault.Cause
  deriving DecidableEq

namespace Settings

/-! ## Conversions -/

/-- The words for a flag that is set. -/
def trueWords : List Text := ["1", "true", "t", "yes", "y", "on"]

/-- The words for a flag that is not set. -/
def falseWords : List Text := ["0", "false", "f", "no", "n", "off"]

/-- The flag that a word stands for, in any letter case. -/
def wordFlag (word : Text) : Except SettingFault.Cause Bool :=
  if trueWords.contains word.toAsciiLower then .ok true
  else if falseWords.contains word.toAsciiLower then .ok false
  else .error .flagValue

/-- The flag that an integer stands for, if it is small enough for the question to make sense. -/
def numberFlag (isSmall : Bool) (n : Int) : Except SettingFault.Cause Bool :=
  if n = 0 then .ok false
  else if n = 1 then .ok true
  else if isSmall then .error .flagValue
  else .error .flagType

/-- Whether a lone surrogate stands in a text. -/
def isBroken (t : Text) : Bool := t.any (·.scalar?.isNone)

/-- The first number that is too great for 64 bits with a sign. -/
def wordBound : Int := 0x8000000000000000

/-- A value as a flag. Numbers beyond 64 bits are of the wrong type altogether. -/
def toFlag : Json → Except SettingFault.Cause Bool
  | .bool value => .ok value
  | .str word => if isBroken word then .error .brokenText else wordFlag word
  | .int n => numberFlag (-wordBound ≤ n && n < wordBound) n
  | .float x =>
    match x.toInt? with
    | some n => numberFlag (-wordBound < n && n < wordBound) n
    | none => .error .flagType
  | _ => .error .flagType

/-- A value as an integer. -/
def toNumber : Json → Except SettingFault.Cause Int
  | .bool value => .ok (if value then 1 else 0)
  | .int n => .ok n
  | .float (.finite negative mantissa exponent) =>
    match (Binary64.finite negative mantissa exponent).toInt? with
    | some n => if -wordBound < n ∧ n < wordBound then .ok n else .error .numberSize
    | none => .error .numberFraction
  | .float _ => .error .numberInfinite
  | .str t =>
    if isBroken t then .error .brokenText
    else match Integer.ofSetting t with
      | .ok n => .ok n
      | .error .notInteger => .error .numberText
      | .error .tooLong => .error .numberSize
  | _ => .error .numberType

/-! ## Sources -/

/-- What the names of variables start with, unless the caller says otherwise. -/
def defaultStem : Text := "EXTERNGEN_"

/-- Where settings come from. Overrides are named like settings, in any letter case. Variables have the
stem in front of the name of the setting. A variable of the dotenv file may have no value. -/
structure Sources where
  overrides : Assoc Json := []
  environment : Environment := []
  dotenv : Assoc (Option Text) := []
  stem : Text := defaultStem
  /-- Whether letter case matters in the names of variables. -/
  caseMatters : Bool := false
  /-- Whether empty variables are passed over. -/
  ignoreEmpty : Bool := false
  /-- The value of a variable that stands for null. -/
  nullWord : Option Text := none

/-- The override with the stem of variables. -/
def stemDirective : Text := "_env_prefix"

/-- The override that says which names have the stem. -/
def stemTargetDirective : Text := "_env_prefix_target"

/-- The override that says whether letter case matters. -/
def caseDirective : Text := "_case_sensitive"

/-- The override that says whether empty variables are passed over. -/
def emptyDirective : Text := "_env_ignore_empty"

/-- The override with the word for null. -/
def nullDirective : Text := "_env_parse_none_str"

/-- The override that puts another dotenv file in the place of the first. -/
def fileDirective : Text := "_env_file"

/-- All overrides that are no settings. Those that are not named above concern sources that a document
does not have. -/
def directives : List Text :=
  [stemDirective, stemTargetDirective, caseDirective, emptyDirective, nullDirective, fileDirective,
    "_env_file_encoding", "_env_nested_delimiter", "_env_nested_max_split", "_env_parse_enums",
    "_nested_model_default_partial_update", "_secrets_dir", "_cli_prog_name", "_cli_parse_args",
    "_cli_settings_source", "_cli_parse_none_str", "_cli_hide_none_type", "_cli_avoid_json",
    "_cli_enforce_required", "_cli_use_class_docs_for_groups", "_cli_exit_on_error", "_cli_prefix",
    "_cli_flag_prefix_char", "_cli_implicit_flags", "_cli_ignore_unknown_args", "_cli_kebab_case",
    "_cli_shortcuts", "_build_sources"]

namespace Sources

/-- Whether a directive lets the names of settings have the stem. It may give the stem to other names
instead, of which there are none. -/
def stemsSettings : Json → Bool
  | .null => true
  | .str target => target = Text.ofString "variable" || target = Text.ofString "all"
  | _ => false

/-- The sources as the directives among the overrides want them to be read. A directive that is null
changes nothing, except that any other dotenv file is one that is not there. -/
def directed (sources : Sources) : Sources :=
  let given (name : Text) : Json := Json.field name sources.overrides
  let flag (name : Text) (default : Bool) : Bool :=
    match given name with
    | .null => default
    | value => value.truthy
  { overrides := sources.overrides.filter fun (name, _) => !directives.contains name
    environment := sources.environment
    dotenv := if Assoc.hasKey fileDirective sources.overrides then [] else sources.dotenv
    stem :=
      if stemsSettings (given stemTargetDirective) then (given stemDirective).text?.getD sources.stem
      else []
    caseMatters := flag caseDirective sources.caseMatters
    ignoreEmpty := flag emptyDirective sources.ignoreEmpty
    nullWord := (given nullDirective).text?.orElse fun _ => sources.nullWord }

/-- A name as it is compared with the names of variables. -/
def compared (sources : Sources) (name : Text) : Text :=
  if sources.caseMatters then name else name.toLower

/-- The name of the variable of a setting, as it is compared. -/
def variableOf (sources : Sources) (setting : SettingName) : Text :=
  sources.compared (sources.stem ++ setting.text)

/-- The override of a setting: the first that bears its name in any letter case. -/
def override? (sources : Sources) (setting : SettingName) : Option Json :=
  (sources.overrides.find? fun (name, _) => name.toLower = setting.text).map Prod.snd

/-- The value of a variable, which may stand for null. -/
def variableValue (sources : Sources) (value : Text) : Json :=
  if sources.nullWord = some value then .null else .str value

/-- The variables of the environment that count. -/
def environmentVariables (sources : Sources) : Environment :=
  sources.environment.filter fun (_, value) => !(sources.ignoreEmpty && value.isEmpty)

/-- The variables of the dotenv file that count. -/
def dotenvVariables (sources : Sources) : Assoc (Option Text) :=
  sources.dotenv.filter fun (_, value) => !(sources.ignoreEmpty && value = some [])

/-- The value of the last entry whose name, as it is compared, is the given one. -/
def lastNamed? {α : Type} (sources : Sources) (name : Text) (entries : Assoc α) : Option α :=
  (entries.reverse.find? fun (key, _) => sources.compared key = name).map Prod.snd

/-- The value of a setting in the first source that has it. -/
def valueOf? (sources : Sources) (setting : SettingName) : Option Json :=
  match sources.override? setting with
  | some value => some value
  | none =>
    match sources.lastNamed? (sources.variableOf setting) sources.environmentVariables with
    | some t => some (sources.variableValue t)
    | none =>
      ((sources.lastNamed? (sources.variableOf setting) sources.dotenvVariables).bind id).map
        sources.variableValue

/-- The overrides that name no setting. -/
def unknownOverrides (sources : Sources) : List Text :=
  (sources.overrides.map Prod.fst).filter fun name =>
    SettingName.all.all fun setting => setting.text != name.toLower

/-- The variables of the dotenv file that belong to no setting, as they are compared. Variables without
a value or with an empty one do not count, and with a stem in force neither does one that bears the
bare name of a setting. -/
def unknownVariables (sources : Sources) : List Text :=
  let merged : Assoc (Option Text) :=
    Assoc.merge [] (sources.dotenvVariables.map fun (name, value) => (sources.compared name, value))
  (merged.filter fun (name, value) =>
    value.any (!·.isEmpty) &&
      SettingName.all.all fun setting =>
        sources.variableOf setting != name &&
          (sources.stem.isEmpty || setting.text != name)).map Prod.fst

/-- The names that belong to no setting, each once. -/
def unknownNames (sources : Sources) : List Text :=
  sources.unknownOverrides ++
    sources.unknownVariables.filter fun name => !sources.unknownOverrides.contains name

/-- What is wrong with the value of one setting. -/
def faultOf? (sources : Sources) (setting : SettingName) : Option SettingFault :=
  match sources.valueOf? setting with
  | none => none
  | some value =>
    let cause? := match setting with
      | .indentSize => faultIn (toNumber value)
      | _ => faultIn (toFlag value)
    cause?.map (⟨setting.text, ·⟩)
where
  /-- The cause of a failed conversion. -/
  faultIn {α : Type} : Except SettingFault.Cause α → Option SettingFault.Cause
    | .ok _ => none
    | .error cause => some cause

/-- All that is wrong: values first, then names. A name that is no proper text hides all the rest, and
cannot be given itself. -/
def faults (sources : Sources) : List SettingFault :=
  if sources.unknownOverrides.any isBroken then [⟨[], .brokenText⟩]
  else SettingName.all.filterMap sources.faultOf? ++ sources.unknownNames.map (⟨·, .unknownName⟩)

/-- The flag of a setting, or its default. -/
def flag (sources : Sources) (setting : SettingName) (default : Bool) : Bool :=
  match (sources.valueOf? setting).map toFlag with
  | some (.ok value) => value
  | _ => default

/-- The integer of a setting, or its default. -/
def number (sources : Sources) (setting : SettingName) (default : Int) : Int :=
  match (sources.valueOf? setting).map toNumber with
  | some (.ok value) => value
  | _ => default

end Sources

/-- The settings of the sources as they are, without a look at directives. -/
def resolveDirected (sources : Sources) : Except (List SettingFault) Settings :=
  match sources.faults with
  | [] =>
    let defaults : Settings := {}
    .ok
      { strict := sources.flag .strict defaults.strict
        beautify := sources.flag .beautify defaults.beautify
        indentSize := sources.number .indentSize defaults.indentSize
        validateInput := sources.flag .validateInput defaults.validateInput }
  | faults => .error faults

/-- The settings of the sources, or all that is wrong with them. -/
def resolve (sources : Sources) : Except (List SettingFault) Settings :=
  resolveDirected sources.directed

/-- The settings by name, as values. -/
def values (settings : Settings) : SettingName → Json
  | .strict => .bool settings.strict
  | .beautify => .bool settings.beautify
  | .indentSize => .int settings.indentSize
  | .validateInput => .bool settings.validateInput

end Settings

end Externs
