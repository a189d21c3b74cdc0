import Externs.Settings
import Externs.Settings.Dotenv

/-!
# Loaded settings

Settings are loaded from what the caller gives, from the variables of the process and from a dotenv file, if
there is one. The caller may name another stem for the variables.

* `Settings.Sources.gather`: all these as sources;
* `Settings.load`: the settings that come from them.
-/

namespace Externs.Settings

set_option autoImplicit false

/-- The sources that a caller, a process and a dotenv file make. -/
def Sources.gather (overrides : Assoc Json) (environment : Environment) (stem dotenv : Option Text) :
    Sources where
  overrides := overrides
  environment := environment
  dotenv := (dotenv.map (Dotenv.read environment)).getD []
  stem := stem.getD defaultStem

/-- The settings that a caller, a process and a dotenv file ask for, or all that is wrong with them. -/
def load (overrides : Assoc Json) (environment : Environment) (stem dotenv : Option Text) :
    Except (List SettingFault) Settings :=
  resolve (.gather overrides environment stem dotenv)

end Externs.Settings
