import AudioPlan.Calendar.Instant
import AudioPlan.Json.Writer
import AudioPlan.Log.Record
import AudioPlan.Log.Template

/-!
# Log entries and how they are written

An entry is all that is known of a record: when it was made, by which part, its message with its
arguments, the file that was being processed, what else the caller said about it, and the error that
it reports.  An entry is written as a line of text or as a JSON object on one line.

* `Entry.set` gives an entry what a caller says about it;
* `Entry.text` and `Entry.json` are the two forms.
-/

namespace AudioPlan

/-- A record with everything about it. -/
structure Entry where
  logger : Value := .text "trackrules"
  level : Value := .text "INFO"
  /-- Seconds since 1970. -/
  created : Value
  message : Value
  /-- What is put into the message, if anything. -/
  arguments : Option Template.Supply := none
  file : Option String := none
  /-- What else the caller said, by names of the caller's choice. -/
  extra : List (String × Value) := []
  /-- The error that is reported, as text. -/
  error : Option String := none
  /-- Texts that follow the line. -/
  remarks : List Value := []
  /-- Whether the message cannot be built. -/
  broken : Bool := false
  deriving Repr

namespace Entry

/-- The arguments of an entry; without any the message stands as it is. -/
def supplyOf (arguments : List Value) : Option Template.Supply :=
  if arguments.isEmpty then none else some (recordSupply arguments)

/-- The names of what every record has, whether it is written or not. -/
def ownNames : List String :=
  ["name", "msg", "args", "levelname", "levelno", "pathname", "filename", "module", "exc_info",
   "exc_text", "stack_info", "lineno", "funcName", "created", "msecs", "relativeCreated", "thread",
   "threadName", "processName", "process"]

/-- The names of what is added when a record is written. -/
def addedNames : List String :=
  ["message", "asctime", "file_path", "file_tag"]

/-- Whether something that a caller said under a name is written as such. -/
def isExtra (name : String) : Bool :=
  !ownNames.contains name && !addedNames.contains name && !name.startsWith "_"

/-- An entry with something said about it under a name.  Some names stand for parts of the entry. -/
def set (name : String) (v : Value) (e : Entry) : Entry :=
  let e := if isExtra name then { e with extra := put name v e.extra } else e
  match name with
  | "name" => { e with logger := v }
  | "levelname" => { e with level := v }
  | "created" => { e with created := v }
  | "msg" => { e with message := v }
  | "args" => { e with arguments := if v.given then some (.ofOne v) else none }
  | "exc_text" | "stack_info" =>
    { e with remarks := if v.given then e.remarks ++ [v] else e.remarks }
  | "exc_info" => { e with broken := e.broken || v.given }
  | "getMessage" => { e with broken := true }
  | _ => e

/-- An entry with everything that a caller said about it. -/
def setAll (said : List (String × Value)) (e : Entry) : Entry :=
  said.foldl (fun e (name, v) => e.set name v) e

/-- The message with its arguments in it. -/
def fullMessage (e : Entry) : Except Fault String :=
  if e.broken then .error .wrongKind
  else do
    let message ← e.message.written
    match e.arguments with
    | none => return message
    | some supply => Template.fill message supply

/-- A text on lines of its own behind another. -/
def below (text added : String) : String :=
  if text.endsWith "\n" then text ++ added else text ++ "\n" ++ added

/-- A text behind the line with everything that follows it. -/
def withRemarks (text : String) : List Value → Except Fault String
  | [] => .ok text
  | .text remark :: rest => withRemarks (below text remark) rest
  | _ :: _ => .error .wrongKind

/-- An entry as text. -/
def text (e : Entry) : Except Fault String := do
  let message ← e.fullMessage
  let time ← (← Instant.ofNumber e.created).lineText
  let logger ← e.logger.written
  let level ← e.level.written
  let line := time ++ " - " ++ fileTag e.file ++ logger ++ " - " ++ level ++ " - " ++ message
  withRemarks line ((e.error.map Value.text).toList ++ e.remarks)

/-- The file of an entry, if there is one. -/
def fileEntry (file : Option String) : List (String × Value) :=
  match file with
  | some path => if path.isEmpty then [] else [("file", .text path)]
  | none => []

/-- An entry as a mapping. -/
def document (e : Entry) : Except Fault (List (String × Value)) := do
  let stamp ← (← Instant.ofNumber e.created).stampText
  let message ← e.fullMessage
  return [("timestamp", .text stamp), ("level", e.level), ("logger", e.logger),
      ("message", .text message)] ++ fileEntry e.file ++
    (if e.extra.isEmpty then [] else [("extra", .map e.extra)]) ++
    (match e.error with | some text => [("exception", .text text)] | none => [])

/-- An entry as a JSON object. -/
def json (e : Entry) : Except Fault String := do
  Json.spaced.render (.map (← e.document))

/-- The entry of a record made at some time. -/
def ofRecord (created : Value) (r : Record) : Entry :=
  { logger := .text r.logger, level := .text r.level.name, created := created,
    message := .text r.message, file := r.file }

end Entry

/-- The two forms of log lines. -/
inductive LogForm where
  | text
  | json
  deriving Repr, DecidableEq

namespace LogForm

/-- The form that a word in any letter case asks for: text unless it is the word for JSON. -/
def ofWord (word : String) : LogForm :=
  if Text.foldText word = "json" then .json else .text

/-- An entry in a form. -/
def write (form : LogForm) (e : Entry) : Except Fault String :=
  match form with
  | .text => e.text
  | .json => e.json

end LogForm

end AudioPlan
