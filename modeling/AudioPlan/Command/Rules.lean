import AudioPlan.Command.Plan
import AudioPlan.Yaml.Writer

/-!
# Commands on rule documents

Three commands: one says whether a rule document is valid, one shows the marker that it puts into
files, and one shows the rule document that a marker holds.
-/

namespace AudioPlan

/-! ## Validation -/

/-- One thing that is wrong with a rule document. -/
structure Finding where
  place : Option String
  message : String
  code : String
  deriving Repr, DecidableEq

namespace Finding

/-- A finding as a line. -/
def line (f : Finding) : String :=
  match f.place.filter (!·.isEmpty) with
  | some place => s!"  {place}: {f.message}"
  | none => "  " ++ f.message

/-- A finding in the report. -/
def document (f : Finding) : Value :=
  .map [("field", textOrNull f.place), ("message", .text f.message), ("code", .text f.code)]

end Finding

/-- What was found out about a rule document. -/
inductive Verdict where
  | valid (count : Nat)
  | missing (path : Path)
  | invalid (error : SourceError)
  deriving Repr, DecidableEq

namespace Verdict

/-- The message of a verdict. -/
def message : Verdict → String
  | .valid count => s!"Rule document is valid ({count} rules)"
  | .missing path => "File not found: " ++ path.text
  | .invalid error => error.message

/-- What is wrong with the rule document. -/
def findings : Verdict → List Finding
  | .valid _ => []
  | v@(.missing _) => [⟨none, v.message, "file_not_found"⟩]
  | .invalid (.rejected r) =>
    match r.allIssues with
    | [] => [⟨some r.path, r.message, "validation_error"⟩]
    | issues => issues.map fun i => ⟨some i.path, i.message, i.cause.code⟩
  | .invalid error => [⟨none, error.message, "syntax_error"⟩]

/-- Whether the document is valid. -/
def isValid : Verdict → Bool
  | .valid _ => true
  | _ => false

/-- The exit code of a verdict. -/
def reason : Verdict → ExitReason
  | .valid _ => .success
  | .missing _ => .targetNotFound
  | .invalid _ => .invalidRules

/-- The number of rules in the report, if there are any to count. -/
def countEntry : Verdict → List (String × Value)
  | .valid count => [("rules", .int count)]
  | _ => []

/-- The report of a verdict. -/
def document (path : Path) (v : Verdict) : Value :=
  .map ([("valid", .bool v.isValid), ("file", .text path.text),
      ("errors", .list (v.findings.map Finding.document))] ++
    v.countEntry ++ [("message", .text v.message)])

/-- The lines about a verdict. -/
def lines (path : Path) (v : Verdict) : List String :=
  if v.isValid then ["Valid: " ++ path.text, "  " ++ v.message]
  else ("Invalid: " ++ path.text) :: v.findings.map Finding.line

end Verdict

/-- Whether there is anything where a path leads.  A path that cannot be followed for another reason
than a missing step ends the command. -/
def isThere (path : Path) : Command Bool := do
  match ← Script.kind path with
  | .ok _ => return true
  | .error .missing | .error .notFolder | .error .nullCharacter => return false
  | .error _ => throw (.died .beyondSystem)

/-- Finds out whether a file holds a rule document. -/
def judge (j : Journal) (path : Path) : Command Verdict := do
  if ← isThere path then
    match ← loadRules j path with
    | .ok rs => return .valid rs.rules.length
    | .error e => return .invalid e
  else return .missing path

/-! ## The commands -/

/-- The option for answers in JSON. -/
def jsonOption : OptionForm := { word := "--json" }

/-- How the command that validates is called. -/
def validateForm : CommandForm :=
  { path := "main rules validate"
    synopsis := "[OPTIONS] RULES_FILE"
    options := [jsonOption, helpOption] }

/-- How the command that shows a marker is called. -/
def watermarkForm : CommandForm :=
  { path := "main rules watermark"
    synopsis := "[OPTIONS] RULES_FILE"
    options := [helpOption] }

/-- How the command that shows the rules in a marker is called. -/
def decodeForm : CommandForm :=
  { path := "main rules decode"
    synopsis := "[OPTIONS] MARKER_OR_TOKEN"
    options := [jsonOption, helpOption] }

/-- The words of a command, unless they ask how it is called. -/
def wordsOrHelp (f : CommandForm) (words : List String) : Command Words := do
  let w ← wordsOf f words
  if w.has helpOption.word then help f
  return w

/-- The rule document that a command is called with. -/
def rulesArgument (f : CommandForm) (w : Words) : Command Path := do
  let path ← anyPath (← singleArgument f "RULES_FILE" w)
  noMoreArguments f w
  return path

/-- Says whether a rule document is valid. -/
def validateCommand (j : Journal) (words : List String) : Command Unit := do
  let w ← wordsOrHelp validateForm words
  let path ← rulesArgument validateForm w
  let verdict ← judge j path
  if w.has jsonOption.word then
    let text ← Command.ofFault (Json.indentedPlain.render (verdict.document path))
    Command.say (shownLine text)
  else Command.say (String.join ((verdict.lines path).map shownLine))
  throw (.exit verdict.reason.code)

/-- Shows the marker of a rule document. -/
def watermarkCommand (j : Journal) (words : List String) : Command Unit := do
  let w ← wordsOrHelp watermarkForm words
  let path ← rulesArgument watermarkForm w
  let rs ← requireRules j false path
  Command.say (shownLine (← Command.ofFault rs.marker))

/-- A list of values as it is shown to people. -/
def shownDocument (document : List Value) : Except Fault String :=
  (Value.list document).ifFits
    (String.ofList (Text.trimEnd (Yaml.writeDocument document).toList))

/-- Shows the rule document that a marker holds. -/
def decodeCommand (words : List String) : Command Unit := do
  let w ← wordsOrHelp decodeForm words
  let marker ← singleArgument decodeForm "MARKER_OR_TOKEN" w
  noMoreArguments decodeForm w
  match decodeToken marker with
  | .ok document =>
    if w.has jsonOption.word then
      Command.say (← Command.ofFault (jsonLines (.list document)))
    else Command.say (shownLine (← Command.ofFault (shownDocument document)))
  | .error .notAscii => throw (.died .badValue)
  | .error e => Command.fail (w.has jsonOption.word) .unreadable e.message

end AudioPlan
