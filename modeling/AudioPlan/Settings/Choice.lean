import AudioPlan.File.Failure
import AudioPlan.Settings.Basic
import AudioPlan.Settings.Environment
import AudioPlan.Text.Utf8
import AudioPlan.Toml.Reader

/-!
# The choice of settings

A setting is taken from the first of four sources that has it: what the caller asks for, the
environment, the configuration file, and a default.

* `readTable` makes a table of a configuration file; a file that is missing is an empty table;
* `chooseLog` and `chooseEngine` choose between the sources;
* `chooseSettings` does both for the content of a configuration file;
* `loadSettings` finds that file first.
-/

namespace AudioPlan

/-- Why there are no settings. -/
inductive SettingError where
  | notToml (path : Path)
  | unreadable (path : Path) (failure : FileFailure)
  | notTable (section_ : String)
  | wrongKind (section_ key expected : String) (value : Value)
  | invalid (problem : SettingProblem)
  | fault (fault : Fault)
  deriving Repr

/-- The wording of an error; a fault has none, and what is wrong with a TOML text is not said. -/
def SettingError.message : SettingError → String
  | .notToml path => "Invalid TOML in " ++ path.text
  | .unreadable path failure => s!"Cannot read config file {path.text}: {failure.message}"
  | .notTable name => s!"[{name}] must be a table"
  | .wrongKind name key expected value =>
    s!"[{name}] {key} must be of type {expected}, got {value.kind} {value.shown}"
  | .invalid problem => "Invalid configuration: " ++ problem.message
  | .fault _ => ""

/-- What a caller asks for. -/
structure Wishes where
  level : Option String := none
  logFile : Option Path := none
  form : Option String := none
  rulesFile : Option Path := none
  dryRun : Option Bool := none
  deriving Repr

/-! ## The configuration file -/

/-- A section of a configuration file, empty if it is missing. -/
structure Section where
  name : String
  entries : Toml.Table
  deriving Repr

namespace Section

/-- The section of a name. -/
def find (table : Toml.Table) (name : String) : Except SettingError Section :=
  match table.lookup name with
  | none => .ok ⟨name, []⟩
  | some (.map entries) => .ok ⟨name, entries⟩
  | some _ => .error (.notTable name)

/-- The value of a key, which must be of the kind that `decode` takes. -/
def get? {α : Type} (expected : String) (decode : Value → Option α) (s : Section) (key : String) :
    Except SettingError (Option α) :=
  match s.entries.lookup key with
  | none => .ok none
  | some v =>
    match decode v with
    | some a => .ok (some a)
    | none => .error (.wrongKind s.name key expected v)

/-- The text under a key. -/
def text? (s : Section) (key : String) : Except SettingError (Option String) :=
  s.get? "str" (fun v => match v with | .text t => some t | _ => none) key

/-- The truth value under a key. -/
def flag? (s : Section) (key : String) : Except SettingError (Option Bool) :=
  s.get? "bool" (fun v => match v with | .bool b => some b | _ => none) key

/-- The integer under a key. -/
def int? (s : Section) (key : String) : Except SettingError (Option Int) :=
  s.get? "int" (fun v => match v with | .int n => some n | _ => none) key

end Section

/-- The table that a configuration file holds. -/
def readTable (path : Path) (content : Except FileCause (List UInt8)) :
    Except SettingError Toml.Table :=
  match content with
  | .error .missing => .ok []
  | .error .nullCharacter => .error (.fault .badValue)
  | .error cause => .error (.unreadable path ⟨cause, path.text⟩)
  | .ok bytes =>
    match Text.decodeUtf8 bytes with
    | .error _ => .error (.fault .notUtf8)
    | .ok cs =>
      match Toml.read (String.ofList cs) with
      | .ok table => .ok table
      | .error .malformed => .error (.notToml path)
      | .error .tooManyDigits => .error (.fault .badValue)

/-! ## Choosing -/

/-- The first of three sources that has a value, or a default. -/
def choose {α : Type} (wished environment file : Option α) (default : α) : α :=
  ((wished.or environment).or file).getD default

/-- A path whose home may not be known, where settings are chosen. -/
def settingPath {α : Type} (path : Except Fault α) : Except SettingError α :=
  path.mapError fun fault =>
    match fault with
    | .badValue => .invalid .impossibleUser
    | fault => .fault fault

/-- The path under a key of a section. -/
def Section.path? (s : Section) (homes : Homes) (key : String) :
    Except SettingError (Option Path) := do
  match ← s.text? key with
  | none => return none
  | some text => return some (← settingPath (homes.expand (Path.ofText text)))

/-- Settings without a problem. -/
def checked {α : Type} (problem? : α → Option SettingProblem) (settings : α) :
    Except SettingError α :=
  match problem? settings with
  | none => .ok settings
  | some problem => .error (.invalid problem)

/-- How records are to be written. -/
def chooseLog (wishes : Wishes) (env : Environment) (file : Section) :
    Except SettingError LogSettings := do
  let level ← file.text? "level"
  let envPath ← settingPath (env.path? "TRACKRULES_LOG_FILE")
  let path ← file.path? env.homes "file"
  let form ← file.text? "format"
  let toErrors ← file.flag? "include_stderr"
  let maxBytes ← file.int? "max_bytes"
  let backups ← file.int? "backup_count"
  let default : LogSettings := {}
  checked LogSettings.problem? {
    level := choose wishes.level (env.text? "TRACKRULES_LOG_LEVEL") level default.level
    file := choose (wishes.logFile.map some) (envPath.map some) (path.map some) default.file
    form := choose wishes.form (env.text? "TRACKRULES_LOG_FORMAT") form default.form
    toErrors := toErrors.getD default.toErrors
    maxBytes := maxBytes.getD default.maxBytes
    backups := backups.getD default.backups }

/-- How rules are to be applied. -/
def chooseEngine (wishes : Wishes) (env : Environment) (file : Section) :
    Except SettingError EngineSettings := do
  let envPath ← settingPath (env.path? "TRACKRULES_RULES_FILE")
  let path ← file.path? env.homes "rules_file"
  let dryRun ← file.flag? "dry_run"
  let markerTag ← file.text? "marker_tag"
  let default : EngineSettings := {}
  checked EngineSettings.problem? {
    rulesFile := choose (wishes.rulesFile.map some) (envPath.map some) (path.map some)
      default.rulesFile
    dryRun := choose wishes.dryRun (env.flag? "TRACKRULES_DRY_RUN") dryRun default.dryRun
    markerTag := choose none (env.text? "TRACKRULES_MARKER_TAG") markerTag default.markerTag }

/-- The settings for a configuration file with some content. -/
def chooseSettings (wishes : Wishes) (env : Environment) (path : Path)
    (content : Except FileCause (List UInt8)) : Except SettingError Settings := do
  let table ← readTable path content
  let log ← Section.find table "logging"
  let engine ← Section.find table "engine"
  return { log := ← chooseLog wishes env log, engine := ← chooseEngine wishes env engine }

/-- The configuration file that is read: the one that is asked for or the one of the environment. -/
def configFile (asked : Option Path) (env : Environment) : Except SettingError Path :=
  match asked with
  | some path => .ok path
  | none => env.configPath.mapError .fault

/-- The settings that a caller gets, given what files hold. -/
def loadSettings (asked : Option Path) (wishes : Wishes) (env : Environment)
    (contents : Path → Except FileCause (List UInt8)) : Except SettingError Settings := do
  let path ← configFile asked env
  chooseSettings wishes env path (contents path)

end AudioPlan
