import AudioPlan.Command.Program
import Std.Time.DateTime.Timestamp

/-!
# Running the program

Carries out the script of a command line on the files, variables, inputs and outputs of the machine.
-/

namespace AudioPlan

/-- The number of a failure, which some operations report with a minus sign. -/
def failureNumber (reported : UInt32) : Nat :=
  reported.toInt32.toInt.natAbs

/-- The cause of a failure that the machine reports. -/
def causeOf : IO.Error → FileCause
  | .alreadyExists _ number wording | .interrupted _ number wording
  | .noFileOrDirectory _ number wording | .invalidArgument _ number wording
  | .permissionDenied _ number wording | .resourceExhausted _ number wording
  | .inappropriateType _ number wording | .noSuchThing _ number wording
  | .otherError number wording | .resourceBusy number wording
  | .resourceVanished number wording | .unsupportedOperation number wording
  | .hardwareFault number wording | .unsatisfiedConstraints number wording
  | .illegalOperation number wording | .protocolError number wording
  | .timeExpired number wording => .ofNumber (failureNumber number) wording
  | .unexpectedEof => .ofNumber 5 "Input/output error"
  | .userError wording => .ofNumber 5 wording

/-- An action on the files that some paths lead to, with the cause for which it fails. -/
def attempt {α : Type} (paths : List Path) (action : IO α) : IO (Except FileCause α) := do
  if paths.any fun p => p.text.contains '\x00' then return .error .nullCharacter
  match ← action.toBaseIO with
  | .ok a => return .ok a
  | .error e => return .error (causeOf e)

/-- What is known of a place. -/
def kindAt (p : Path) : IO FileKind := do
  let found ← ((← IO.currentDir) / p.text).metadata
  match found.type with
  | .dir => return .folder
  | _ => return .file found.byteSize.toNat

/-- Adds bytes to a file. -/
def appendTo (p : Path) (bytes : List UInt8) : IO Unit := do
  let handle ← IO.FS.Handle.mk p.text .append
  handle.write bytes.toByteArray

/-- All that is left of an input behind the bytes that were read. -/
partial def readAll (input : IO.FS.Stream) (read : ByteArray) : IO ByteArray := do
  let more ← input.read 65536
  if more.isEmpty then return read else readAll input (read ++ more)

/-- Takes one step on the machine. -/
def takeStep : (step : CommandStep) → IO step.Answer
  | .read p => attempt [p] do return (← IO.FS.readBinFile p.text).toList
  | .kind p => attempt [p] (kindAt p)
  | .append p bytes => attempt [p] (appendTo p bytes)
  | .makeFolder p => attempt [p] (IO.FS.createDir p.text)
  | .move source target => attempt [source, target] (IO.FS.rename source.text target.text)
  | .remove p => attempt [p] (IO.FS.removeFile p.text)
  | .here => do return Path.ofText (← IO.currentDir).toString
  | .input => do return (← readAll (← IO.getStdin) ByteArray.empty).toList
  | .print .results text => do (← IO.getStdout).putStr text
  | .print .errors text => do (← IO.getStderr).putStr text
  | .clock => do
    let now ← Std.Time.Timestamp.now
    return .float (.ofInt now.toSecondsSinceUnixEpoch.val)

/-- Carries out a script on the machine. -/
def Script.perform {α : Type} : Script α → IO α
  | .done a => return a
  | .take step next => do (next (← takeStep step)).perform

/-- The variables that are set and the homes of the users. -/
def readEnvironment : IO Environment := do
  let values ← Environment.names.filterMapM fun name => do
    return (← IO.getEnv name).map fun value => (name, value)
  let own := (← IO.getEnv "HOME").getD "/"
  let table ← (IO.FS.readFile "/etc/passwd").toBaseIO
  return { values := values, homes := .ofTable own (table.toOption.getD "") }

end AudioPlan

/-- Carries out the command line. -/
def main (words : List String) : IO UInt32 := do
  let environment ← AudioPlan.readEnvironment
  match ← (AudioPlan.program environment words).perform with
  | .exit code => return code.toNat.toUInt32
  | .died _ =>
    IO.eprintln "Aborted"
    return 1
