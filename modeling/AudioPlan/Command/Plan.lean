import AudioPlan.Command.Usage
import AudioPlan.File.Text
import AudioPlan.Log.Journal
import AudioPlan.Outcome
import AudioPlan.Plan.Arguments
import AudioPlan.Rule.Source

/-!
# The command that plans

Reads the probe report of one file and a rule document and says what is to be done with the file.

* `outcomeLines` is the answer for people, `outcomeData` the answer for readers of JSON;
* `planCommand` is the command.
-/

namespace AudioPlan

/-! ## Reading a probe report -/

/-- Why there is no probe report. -/
inductive ReportError where
  | unreadable (given : String) (failure : FileFailure)
  | notJson (error : Json.SyntaxError)
  | fault (fault : Fault)
  deriving Repr, DecidableEq

namespace ReportError

/-- The wording of an error; a fault has none. -/
def message : ReportError → String
  | .unreadable given failure =>
    if failure.cause = .missing then "Probe file not found: " ++ given
    else s!"Cannot read probe file {given}: {failure.message}"
  | .notJson error => "Invalid probe JSON: " ++ error.message
  | .fault _ => ""

/-- The exit code for an error. -/
def reason : ReportError → ExitReason
  | .unreadable _ _ => .targetNotFound
  | .notJson _ => .unreadable
  | .fault _ => .generalError

end ReportError

/-- The probe report that the content of a file denotes. -/
def readReport (given : String) (content : Except FileCause (List UInt8)) :
    Except ReportError Value :=
  match content with
  | .ok bytes => do
    let text ← (fileText bytes).mapError .fault
    (Json.read text).mapError .notJson
  | .error .nullCharacter => .error (.fault .badValue)
  | .error cause => .error (.unreadable given ⟨cause, (Path.ofText given).text⟩)

/-- What is given to the command for a dash, and the content of a file for anything else. -/
def contentOf (given : String) : Script (Except FileCause (List UInt8)) :=
  if given = "-" then return .ok (← Script.input) else Script.read (Path.ofText given)

/-! ## Answers -/

/-- What the command says about a status. -/
def Status.remark : Status → String
  | .changed => "Changes planned"
  | .unchanged => "No rule matched, nothing to do"
  | .noSourceData => "Probe data missing, nothing to do"
  | .noAudioTracks => "No audio tracks, nothing to do"
  | .alreadyProcessed => "Already processed with these rules"

/-- The lines about a decision. -/
def Decision.lines (d : Decision) : List String :=
  let rule := ((d.rule.filter (!·.isEmpty)).map fun label => s!" [{label}]").getD ""
  s!"  Audio track {d.input} (stream {d.stream.intValue.toText}): {d.action.name}{rule}" ::
    (d.outputs.zip d.notes).map fun (output, note) => s!"    -> output {output}: {note}"

/-- The answer for people. -/
def outcomeLines (o : Outcome) (arguments : Arguments) : List String :=
  ["Status: " ++ o.status.remark] ++
    (if o.path.given then ["File: " ++ o.path.toText] else []) ++
    o.plan.decisions.flatMap Decision.lines ++
    if o.status == .changed then
      ["Summary: " ++ o.plan.summary, "Arguments:", "  " ++ " ".intercalate arguments.tokens] ++
        if o.dryRun then ["Dry run: no changes should be applied"] else []
    else []

/-- The answer for readers of JSON. -/
def outcomeData (o : Outcome) (arguments : Arguments) : List (String × Value) :=
  [("file_path", o.path),
   ("should_apply", .bool o.shouldApply),
   ("dry_run", .bool o.dryRun),
   ("marker", textOrNull o.marker),
   ("plan", o.plan.document),
   ("outcome", .text o.status.name),
   ("arguments", arguments.document),
   ("command", .list (arguments.tokens.map .text))]

/-! ## The command -/

/-- How the command is called. -/
def planForm : CommandForm :=
  { path := "main plan"
    synopsis := "[OPTIONS] PROBE_JSON"
    options := [{ word := "--rules", takesValue := true }, { word := "--dry-run" },
      { word := "--no-dry-run" }, { word := "--json" }, helpOption] }

/-- What the command is asked for. -/
structure PlanRequest where
  probe : String
  rules : Option Path
  dryRun : Option Bool
  json : Bool
  deriving Repr

/-- What the words of the command ask for. -/
def PlanRequest.ofWords (words : List String) : Command PlanRequest := do
  let w ← wordsOf planForm words
  if w.has helpOption.word then help planForm
  let rules ← (w.value? "--rules").mapM (filePath planForm "--rules")
  let probe ← singleArgument planForm "PROBE_JSON" w
  noMoreArguments planForm w
  return { probe := probe, rules := rules, dryRun := w.choice? "--dry-run" "--no-dry-run",
           json := w.has "--json" }

/-- The rules of a file, with the records of their reading. -/
def loadRules (j : Journal) (path : Path) : Command (Except SourceError RuleSet) := do
  match readRules path (← Script.read path) with
  | .ok rs =>
    j.writeAll [rs.validatedRecord, rs.loadedRecord path]
    return .ok rs
  | .error (.fault fault) => throw (.died fault)
  | .error e => return .error e

/-- The rules of a file, or the end of the command if there are none. -/
def requireRules (j : Journal) (json : Bool) (path : Path) : Command RuleSet := do
  match ← loadRules j path with
  | .ok rs => return rs
  | .error e => Command.fail json .invalidRules e.message

/-- The probe report that a word asks for, or the end of the command if there is none. -/
def requireReport (json : Bool) (given : String) : Command Value := do
  match readReport given (← contentOf given) with
  | .ok report => return report
  | .error (.fault fault) => throw (.died fault)
  | .error e => Command.fail json e.reason e.message

/-- The result of a computation, with its records in the journal. -/
def recorded {α : Type} (j : Journal) (x : Logged α) : Command α := do
  j.writeAll x.records
  Command.ofFault x.outcome

/-- Plans what is to be done with one file. -/
def planCommand (s : Settings) (j : Journal) (words : List String) : Command Unit := do
  let request ← PlanRequest.ofWords words
  match request.rules.or s.engine.rulesFile with
  | none =>
    Command.fail request.json .invalidSettings
      "No rule document given (use --rules or set engine.rules_file)"
  | some path =>
    let rs ← requireRules j request.json path
    let report ← requireReport request.json request.probe
    let probe ← recorded j (Probe.read report .null s.engine.markerTag)
    let outcome ← recorded j (process probe rs (request.dryRun.getD s.engine.dryRun))
    let arguments ← Command.ofFault (outcome.plan.arguments outcome.marker)
    if request.json then
      let text := successText true outcome.status.remark (outcomeData outcome arguments)
      Command.say (← Command.ofFault text)
    else
      Command.say (String.join ((outcomeLines outcome arguments).map shownLine))

end AudioPlan
