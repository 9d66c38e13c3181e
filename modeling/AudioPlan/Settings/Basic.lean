import AudioPlan.File.Path
import AudioPlan.Log.Record
import AudioPlan.Text.Blank
import AudioPlan.Text.Case
import AudioPlan.Track.Probe

/-!
# Settings

What can be set: how records are written, and how rules are applied.  Settings may hold any values
of the right kinds; `problem?` says what is wrong with them, the first fault in a fixed order.
-/

namespace AudioPlan

/-- What is wrong with settings. -/
inductive SettingProblem where
  | unknownLevel (given : String)
  | unknownForm (given : String)
  | noSize (given : Int)
  | negativeBackups (given : Int)
  | blankMarkerTag
  /-- A path refers to the home of a user whose name cannot be one. -/
  | impossibleUser
  deriving Repr, DecidableEq

/-- The wording of a problem. -/
def SettingProblem.message : SettingProblem → String
  | .unknownLevel given =>
    "level must be one of \x7b'debug', 'error', 'info', 'warning'\x7d, got " ++ given
  | .unknownForm given => "format must be one of \x7b'json', 'text'\x7d, got " ++ given
  | .noSize given => "max_bytes must be positive, got " ++ toString given
  | .negativeBackups given => "backup_count must be non-negative, got " ++ toString given
  | .blankMarkerTag => "marker_tag must be a non-empty string"
  | .impossibleUser => "embedded null byte"

/-- How records are written. -/
structure LogSettings where
  /-- The word for the least level that is written. -/
  level : String := "info"
  file : Option Path := none
  /-- The word for the form of the lines. -/
  form : String := "text"
  /-- Whether records go to the error output even if there is a file. -/
  toErrors : Bool := false
  /-- The size that a file does not reach. -/
  maxBytes : Int := 10485760
  /-- How many full files are kept. -/
  backups : Int := 5
  deriving Repr, DecidableEq

namespace LogSettings

/-- The levels that can be asked for. -/
def levels : List (String × Level) :=
  [("debug", .debug), ("info", .info), ("warning", .warning), ("error", .error)]

/-- The forms that can be asked for. -/
def forms : List String :=
  ["text", "json"]

/-- The level that a word in any letter case asks for. -/
def levelOf? (word : String) : Option Level :=
  levels.lookup (Text.lowerText word)

/-- What is wrong with settings. -/
def problem? (s : LogSettings) : Option SettingProblem :=
  if (levelOf? s.level).isNone then some (.unknownLevel s.level)
  else if !forms.contains (Text.lowerText s.form) then some (.unknownForm s.form)
  else if s.maxBytes ≤ 0 then some (.noSize s.maxBytes)
  else if s.backups < 0 then some (.negativeBackups s.backups)
  else none

/-- The least level that is written. -/
def leastLevel (s : LogSettings) : Level :=
  (levelOf? s.level).getD .info

end LogSettings

/-- How rules are applied. -/
structure EngineSettings where
  /-- The rule document that is used unless another one is given. -/
  rulesFile : Option Path := none
  /-- Whether plans are only made. -/
  dryRun : Bool := false
  /-- The tag of a file that holds its marker. -/
  markerTag : String := Probe.defaultMarkerTag
  deriving Repr, DecidableEq

/-- What is wrong with settings. -/
def EngineSettings.problem? (s : EngineSettings) : Option SettingProblem :=
  if (Text.trim s.markerTag.toList).isEmpty then some .blankMarkerTag else none

/-- All settings. -/
structure Settings where
  log : LogSettings := {}
  engine : EngineSettings := {}
  deriving Repr, DecidableEq

end AudioPlan
