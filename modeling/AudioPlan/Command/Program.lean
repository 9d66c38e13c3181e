import AudioPlan.Command.Rules
import AudioPlan.Settings.Choice

/-!
# The program

The program takes options of its own, then the name of a command with its words.  Settings are
chosen and the journal is opened before the words of the command are looked at, so a wrong setting
comes before a wrong word; the name of the command comes before both.

* `program` carries out a command line.
-/

namespace AudioPlan

/-! ## Groups of commands -/

/-- A group of commands by their names. -/
structure CommandGroup where
  form : CommandForm
  names : List String
  deriving Repr

/-- The name and the words of the command that a group is called with. -/
structure Selection where
  name : String
  words : List String
  deriving Repr

namespace CommandGroup

/-- The program with its commands. -/
def program : CommandGroup :=
  { form := {
      path := "main"
      synopsis := "[OPTIONS] COMMAND [ARGS]..."
      options := [{ word := "--version" }, { word := "--config", takesValue := true },
        { word := "--log-level", takesValue := true }, { word := "--log-file", takesValue := true },
        { word := "--log-json" }, helpOption]
      mixed := false }
    names := ["rules", "plan"] }

/-- The commands on rule documents. -/
def rules : CommandGroup :=
  { form := {
      path := "main rules"
      synopsis := "[OPTIONS] COMMAND [ARGS]..."
      options := [helpOption]
      mixed := false }
    names := ["validate", "watermark", "decode"] }

/-- Shows how a group is called when nothing is asked for. -/
def helpless {α : Type} (g : CommandGroup) : Command α := do
  Script.print .errors g.form.usage
  throw (.exit misuseCode)

/-- The command of a group.  A name that looks like an option is looked at as one before it is
refused, which `again` does. -/
def select (g : CommandGroup) (again : List String → Command Unit) (words : List String) :
    Command Selection := do
  match words with
  | [] => misuse g.form .missingCommand
  | name :: rest =>
    if g.names.contains name then return ⟨name, rest⟩
    if Words.isOption name then again words
    misuse g.form (.noSuchCommand name (Text.similarTo name g.names))

end CommandGroup

/-! ## The options of the program -/

/-- The text that names the program and its version. -/
def versionText : String := "main, version 0.1.0"

/-- What the options of the program ask for. -/
structure ProgramRequest where
  config : Option Path := none
  wishes : Wishes := {}
  deriving Repr

namespace ProgramRequest

/-- The request with what one option asks for. -/
def withOption (f : CommandForm) (w : Words) (r : ProgramRequest) (option : String) :
    Command ProgramRequest := do
  let value := (w.value? option).getD ""
  match option with
  | "--config" => return { r with config := some (← filePath f option value) }
  | "--log-level" =>
    let levels := LogSettings.levels.map Prod.fst
    match levels.find? (· == Text.foldText value) with
    | some level => return { r with wishes := { r.wishes with level := some level } }
    | none => misuse f (.badValue option (.notAmong value levels))
  | "--log-file" =>
    return { r with wishes := { r.wishes with logFile := some (← anyPath value) } }
  | "--log-json" => return { r with wishes := { r.wishes with form := some "json" } }
  | _ => return r

end ProgramRequest

/-- The first option that ends the program, if one is given. -/
def endingOption (w : Words) : Option String :=
  w.names.find? fun name => name == helpOption.word || name == "--version"

/-- What the words of the program ask for, and the words behind its options. -/
def readProgram (words : List String) : Command (ProgramRequest × List String) := do
  let f := CommandGroup.program.form
  let w ← wordsOf f words
  match endingOption w with
  | some name =>
    if name = helpOption.word then help f
    Command.say (shownLine versionText)
    throw (.exit 0)
  | none =>
    let request ← w.names.foldlM (ProgramRequest.withOption f w) {}
    return (request, w.arguments)

/-! ## Carrying out -/

/-- Settings, or the end of the program if there are none. -/
def requireSettings (chosen : Except SettingError Settings) : Command Settings :=
  match chosen with
  | .ok settings => return settings
  | .error (.fault fault) => throw (.died fault)
  | .error e => Command.fail false .invalidSettings e.message

/-- The settings that a request and the environment ask for. -/
def settingsFor (env : Environment) (request : ProgramRequest) : Command Settings := do
  match configFile request.config env with
  | .ok path => do
    let content ← Script.read path
    requireSettings (chooseSettings request.wishes env path content)
  | .error e => requireSettings (.error e)

/-- The record of the start of the program. -/
def startRecord (s : Settings) : Record :=
  let rules := (textOrNull (s.engine.rulesFile.map Path.text)).toText
  let dryRun := (Value.bool s.engine.dryRun).toText
  { logger := "trackrules.cli", level := .debug,
    message := s!"trackrules starting: log_level={s.log.level}, rules_file={rules}, " ++
      s!"dry_run={dryRun}" }

/-- The journal that settings ask for. -/
def openJournal (env : Environment) (s : Settings) : Command Journal := do
  Command.ofFault (← Journal.start env.homes s.log)

/-- The commands on rule documents. -/
def rulesCommand (j : Journal) (words : List String) : Command Unit := do
  let group := CommandGroup.rules
  if words.isEmpty then group.helpless
  let w ← wordsOrHelp group.form words
  let command ← group.select (fun words => discard (wordsOrHelp group.form words)) w.arguments
  match command.name with
  | "validate" => validateCommand j command.words
  | "watermark" => watermarkCommand j command.words
  | _ => decodeCommand command.words

/-- The program. -/
def programCommand (env : Environment) (words : List String) : Command Unit := do
  let group := CommandGroup.program
  if words.isEmpty then group.helpless
  let (request, rest) ← readProgram words
  let command ← group.select (fun words => discard (readProgram words)) rest
  let settings ← settingsFor env request
  let journal ← openJournal env settings
  journal.writeAll [startRecord settings]
  match command.name with
  | "rules" => rulesCommand journal command.words
  | _ => planCommand settings journal command.words

/-- Carries out a command line. -/
def program (env : Environment) (words : List String) : Script Ending := do
  match ← (programCommand env words).run with
  | .ok _ => return .exit 0
  | .error ending => return ending

end AudioPlan
