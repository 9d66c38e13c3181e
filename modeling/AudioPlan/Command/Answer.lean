import AudioPlan.Fault
import AudioPlan.File.Script
import AudioPlan.Json.Writer
import AudioPlan.Text.Color

/-!
# Answers of commands

A command ends well with a message, or fails with a message and an exit code.  Either is written for
people or as a JSON object.

* `successText` and `failureText` are the texts; data with integers that are too long has none;
* `Command` is a computation that takes steps and may end the command.
-/

namespace AudioPlan

/-- Why a command leaves, as an exit code. -/
inductive ExitReason where
  | success
  | generalError
  | invalidRules
  | invalidSettings
  | targetNotFound
  | unreadable
  deriving Repr, DecidableEq

namespace ExitReason

/-- The exit code. -/
def code : ExitReason → Int
  | .success => 0
  | .generalError => 1
  | .invalidRules => 10
  | .invalidSettings => 11
  | .targetNotFound => 20
  | .unreadable => 51

/-- The name of an exit code in JSON answers. -/
def name : ExitReason → String
  | .success => "SUCCESS"
  | .generalError => "GENERAL_ERROR"
  | .invalidRules => "RULES_VALIDATION_ERROR"
  | .invalidSettings => "CONFIG_ERROR"
  | .targetNotFound => "TARGET_NOT_FOUND"
  | .unreadable => "PARSE_ERROR"

end ExitReason

/-- The code that a failed command leaves with: one of the reasons or just a number. -/
inductive ExitCode where
  | reason (r : ExitReason)
  | number (n : Int)
  deriving Repr, DecidableEq

namespace ExitCode

/-- The code as a number. -/
def value : ExitCode → Int
  | .reason r => r.code
  | .number n => n

/-- The name of the code in JSON answers. -/
def name : ExitCode → String
  | .reason r => r.name
  | .number _ => "UNKNOWN_ERROR"

end ExitCode

/-- The line that shows a text, without colours. -/
def shownLine (text : String) : String :=
  String.ofList (Text.dropColors text.toList) ++ "\n"

/-- The lines that show a value as JSON. -/
def jsonLines (v : Value) : Except Fault String := do
  return shownLine (← Json.indented.render v)

/-- What a command says that went well, with data for readers of JSON. -/
def successText (json : Bool) (message : String) (data : List (String × Value)) :
    Except Fault String :=
  if json then
    jsonLines (.map (ofEntries
      ([("status", .text "completed"), ("message", .text message)] ++ data)))
  else .ok (shownLine message)

/-- What a command says that failed.  There is no integer in it, so it can always be written. -/
def failureText (json : Bool) (code : ExitCode) (message : String) : String :=
  if json then
    shownLine (Json.indented.text (.map [
      ("status", .text "failed"),
      ("error", .map [("code", .text code.name), ("message", .text message)])]))
  else shownLine ("Error: " ++ message)

/-- How a command ends before its last step. -/
inductive Ending where
  | exit (code : Int)
  | died (fault : Fault)
  deriving Repr, DecidableEq

/-- A computation that takes steps and may end the command. -/
abbrev Command := ExceptT Ending Script

namespace Command

variable {α : Type}

/-- Writes a text to the results. -/
def say (text : String) : Command Unit :=
  ExceptT.lift (Script.print .results text)

/-- Ends the command with a message and a code. -/
def fail (json : Bool) (reason : ExitReason) (message : String) : Command α := do
  ExceptT.lift (Script.print .errors (failureText json (.reason reason) message))
  throw (.exit reason.code)

/-- Goes on with a result; a fault ends the command. -/
def ofFault (x : Except Fault α) : Command α :=
  match x with
  | .ok a => pure a
  | .error fault => throw (.died fault)

end Command

end AudioPlan
