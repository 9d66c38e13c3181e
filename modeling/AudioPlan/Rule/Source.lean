import AudioPlan.File.Failure
import AudioPlan.File.Text
import AudioPlan.Json.Reader
import AudioPlan.Log.Record
import AudioPlan.Rule.Validation
import AudioPlan.Yaml.Reader

/-!
# Rule documents as text

A rule document is written as JSON or as YAML.  Its text is decoded first and then validated as a
whole.  YAML is read by a part that can be exchanged, which is `Yaml.read` unless another one is
given.

* `parseRules` reads a text;
* `readRules` reads the content of a file, whose name says how it is written.
-/

namespace AudioPlan

/-- How a rule document is written. -/
inductive SourceFormat where
  | json
  | yaml
  deriving Repr, DecidableEq

/-- Why a text gives no rule set. -/
inductive SourceError where
  | notJson (error : Json.SyntaxError)
  | notYaml
  | unreadable (path : Path) (cause : FileCause)
  | rejected (rejection : Rejection)
  | fault (fault : Fault)
  deriving Repr, DecidableEq

namespace SourceError

/-- The wording of an error; a fault has none, and what is wrong with a YAML text is not said. -/
def message : SourceError → String
  | .notJson e => "Invalid JSON: " ++ e.message
  | .notYaml => "Invalid YAML"
  | .unreadable path .missing => "Rules file not found: " ++ path.text
  | .unreadable path .isFolder => "Rules path is a directory: " ++ path.text
  | .unreadable path cause =>
    s!"Cannot read rules file {path.text}: {(FileFailure.mk cause path.text).message}"
  | .rejected r => r.message
  | .fault _ => ""

/-- The error for a rejected document.  A pattern with too many rounds is a number out of range. -/
def ofRejection : Rejection → SourceError
  | .uncountable => .fault .outOfRange
  | r => .rejected r

end SourceError

/-- The error for a text that is refused. -/
def Yaml.Refusal.sourceError : Yaml.Refusal → SourceError
  | .badText => .notYaml
  | .fault cause => .fault cause

/-- What reads YAML: the value of a text, or why there is none. -/
abbrev YamlReader := String → Except Yaml.Refusal Value

/-- The document that a text denotes. -/
def decodeDocument (format : SourceFormat) (text : String) (yaml : YamlReader := Yaml.read) :
    Except SourceError Value :=
  match format with
  | .json => (Json.read text).mapError .notJson
  | .yaml => (yaml text).mapError Yaml.Refusal.sourceError

/-- The rule set that a text denotes. -/
def parseRules (format : SourceFormat) (text : String) (yaml : YamlReader := Yaml.read) :
    Except SourceError RuleSet := do
  let document ← decodeDocument format text yaml
  (validate document).mapError .ofRejection

/-- The part that records of the reading of rules are from. -/
def rulesLogger : String := "trackrules.rules.loader"

/-- The record of a successful validation. -/
def RuleSet.validatedRecord (rs : RuleSet) : Record :=
  { logger := rulesLogger, level := .debug,
    message := s!"Validated rule set with {rs.rules.length} rules" }

/-- The record of rules read from a file. -/
def RuleSet.loadedRecord (rs : RuleSet) (path : Path) : Record :=
  { logger := rulesLogger, level := .info,
    message := s!"Loaded {rs.rules.length} rules from {path.text}" }

/-- How the rule document of a file is written. -/
def SourceFormat.ofPath (path : Path) : SourceFormat :=
  if Text.lowerText path.extension = ".json" then .json else .yaml

/-- The rule set that the content of a file denotes. -/
def readRules (path : Path) (content : Except FileCause (List UInt8))
    (yaml : YamlReader := Yaml.read) : Except SourceError RuleSet :=
  match content with
  | .ok bytes => do
    parseRules (.ofPath path) (← (fileText bytes).mapError .fault) yaml
  | .error .nullCharacter => .error (.fault .badValue)
  | .error cause => .error (.unreadable path cause)

end AudioPlan
