import AudioPlan.File.Script
import AudioPlan.Log.Entry
import AudioPlan.Settings.Basic
import AudioPlan.File.Home
import AudioPlan.Text.Utf8

/-!
# Journals

A journal takes entries and writes those that are serious enough to a log file, to the error output,
or to both.  A log file that a line would fill is put away first: it gets a number behind its name,
the files put away before it move up by one, and the last one is dropped.

* `Journal.start` opens the journal that settings ask for;
* `Journal.write` writes an entry, `Journal.writeAll` the records of a computation.
-/

namespace AudioPlan

/-- A log file with its limits. -/
structure LogFile where
  path : Path
  maxBytes : Int
  backups : Int
  deriving Repr, DecidableEq

/-- Where a journal writes to. -/
inductive Sink where
  | file (target : LogFile)
  | errors
  deriving Repr, DecidableEq

/-- What is done with entries. -/
structure Journal where
  least : Level
  form : LogForm
  sinks : List Sink
  deriving Repr

/-! ## Folders -/

/-- Makes a folder unless it is there. -/
def ensureFolder (p : Path) : Script (Except FileFailure Unit) := do
  match ← Script.makeFolder p with
  | .ok _ => return .ok ()
  | .error cause =>
    if cause != .missing && (← Script.isFolder p) then return .ok ()
    else return .error ⟨cause, p.text⟩

/-- Makes a folder and the folders that lead to it, unless they are there. -/
def ensureFolders : (bound : Nat) → Path → Script (Except FileFailure Unit)
  | 0, p => ensureFolder p
  | bound + 1, p => do
    match ← ensureFolder p with
    | .ok _ => return .ok ()
    | .error failure =>
      if failure.cause = .missing && p.parent != p then
        match ← ensureFolders bound p.parent with
        | .ok _ => ensureFolder p
        | .error failure => return .error failure
      else return .error failure

namespace LogFile

/-- The file put away under a number. -/
def numbered (f : LogFile) (n : Nat) : Path :=
  f.path.appendToName s!".{n}"

/-- Moves a file to a place where another one may be. -/
def moveOver (source target : Path) : Script (Except FileCause Unit) := do
  if ← Script.exists? target then
    match ← Script.remove target with
    | .ok _ => Script.move source target
    | .error cause => return .error cause
  else Script.move source target

/-- Moves the files put away under the numbers up to `n` to the next numbers. -/
def moveUp (f : LogFile) : (n : Nat) → Script (Except FileCause Unit)
  | 0 => return .ok ()
  | n + 1 => do
    if ← Script.exists? (f.numbered (n + 1)) then
      match ← moveOver (f.numbered (n + 1)) (f.numbered (n + 2)) with
      | .ok _ => f.moveUp n
      | .error cause => return .error cause
    else f.moveUp n

/-- Puts a full file away. -/
def putAway (f : LogFile) : Script (Except FileCause Unit) := do
  if f.backups ≤ 0 then return .ok ()
  match ← f.moveUp (f.backups.toNat - 1) with
  | .ok _ => moveOver f.path (f.numbered 1)
  | .error cause => return .error cause

/-- Whether a line would fill the file. -/
def fills (f : LogFile) (size : Nat) (line : String) : Bool :=
  f.maxBytes ≤ (size + line.length : Nat)

/-- Writes a line to the file, which is put away first if the line would fill it. -/
def write (f : LogFile) (line : String) : Script Unit := do
  let room ← match ← Script.kind f.path with
    | .ok (.file size) => if f.fills size line then f.putAway else pure (.ok ())
    | _ => pure (.ok ())
  match room with
  | .ok _ => let _ ← Script.append f.path (Text.encodeUtf8 line.toList)
  | .error _ => return ()

/-- Opens a log file, with the folders that lead to it. -/
def start (p : Path) (s : LogSettings) : Script (Except FileFailure LogFile) := do
  match ← ensureFolders p.parent.names.length p.parent with
  | .error failure => return .error failure
  | .ok _ =>
    let path := Path.absolute (← Script.here) p
    match ← Script.append path [] with
    | .ok _ => return .ok { path := path, maxBytes := s.maxBytes, backups := s.backups }
    | .error cause => return .error ⟨cause, path.text⟩

end LogFile

namespace Journal

/-- The warning that a log file cannot be used. -/
def warning (p : Path) (failure : FileFailure) : String :=
  s!"Warning: Could not open log file {p.text}: {failure.message}\n"

/-- The log file that settings ask for, if it can be used. -/
def startFile (homes : Homes) (s : LogSettings) : Script (Except Fault (Option LogFile)) := do
  match s.file with
  | none => return .ok none
  | some p =>
    match homes.expand p with
    | .error fault => return .error fault
    | .ok p =>
      match ← LogFile.start p s with
      | .ok f => return .ok (some f)
      | .error failure =>
        if failure.cause = .nullCharacter then return .error .badValue
        Script.print .errors (warning p failure)
        return .ok none

/-- The journal that settings ask for.  Without a file, entries go to the error output. -/
def start (homes : Homes) (s : LogSettings) : Script (Except Fault Journal) := do
  match ← startFile homes s with
  | .error fault => return .error fault
  | .ok file =>
    let errors := if s.toErrors || file.isNone then [Sink.errors] else []
    return .ok {
      least := s.leastLevel
      form := LogForm.ofWord s.form
      sinks := (file.map Sink.file).toList ++ errors }

/-- Writes a line to every sink. -/
def writeLine (line : String) : List Sink → Script Unit
  | [] => return ()
  | .file f :: rest => do
    f.write line
    writeLine line rest
  | .errors :: rest => do
    Script.print .errors line
    writeLine line rest

/-- Writes an entry of some level.  An entry that cannot be written is left out. -/
def write (j : Journal) (level : Level) (e : Entry) : Script Unit :=
  if level.rank < j.least.rank then return ()
  else
    match j.form.write e with
    | .ok line => writeLine (line ++ "\n") j.sinks
    | .error _ => return ()

/-- Writes records, each at the time when it is written. -/
def writeAll (j : Journal) : List Record → Script Unit
  | [] => return ()
  | r :: rest => do
    j.write r.level (.ofRecord (← Script.clock) r)
    j.writeAll rest

end Journal

end AudioPlan
