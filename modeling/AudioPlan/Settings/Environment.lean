import AudioPlan.File.Home
import AudioPlan.Text.Case

/-!
# The environment

Variables that are set outside, and where the users are at home.  A text or a path that is empty
counts as not set; a truth value that is empty is false.
-/

namespace AudioPlan

/-- Variables by name, with the homes that paths refer to. -/
structure Environment where
  values : List (String × String) := []
  homes : Homes := {}
  deriving Repr

namespace Environment

/-- The variables that are looked at. -/
def names : List String :=
  ["TRACKRULES_CONFIG_PATH", "TRACKRULES_LOG_FILE", "TRACKRULES_LOG_LEVEL",
   "TRACKRULES_LOG_FORMAT", "TRACKRULES_RULES_FILE", "TRACKRULES_DRY_RUN",
   "TRACKRULES_MARKER_TAG"]

/-- The value of a variable. -/
def get? (env : Environment) (name : String) : Option String :=
  env.values.lookup name

/-- A variable as text. -/
def text? (env : Environment) (name : String) : Option String :=
  (env.get? name).filter (!·.isEmpty)

/-- The words for true. -/
def trueWords : List String :=
  ["true", "1", "yes", "on"]

/-- A variable as a truth value: true for one of four words in any letter case. -/
def flag? (env : Environment) (name : String) : Option Bool :=
  (env.get? name).map fun value => trueWords.contains (Text.lowerText value)

/-- A variable as a path. -/
def path? (env : Environment) (name : String) : Except Fault (Option Path) :=
  match env.text? name with
  | none => .ok none
  | some value => (env.homes.expand (Path.ofText value)).map some

/-- The configuration file unless a variable names another one. -/
def usualConfig (env : Environment) : Path :=
  (Path.ofText env.homes.own).join { root := .here, names := [".trackrules", "config.toml"] }

/-- The path of the configuration file. -/
def configPath (env : Environment) : Except Fault Path :=
  return (← env.path? "TRACKRULES_CONFIG_PATH").getD env.usualConfig

end Environment

end AudioPlan
