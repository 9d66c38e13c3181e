import AudioPlan.Track.Basic

/-!
# Plans

A plan lists the instructions for making the audio tracks of a new file, each for one output track,
and what was decided about every audio track of the old one.  It also says which other streams are
passed through unchanged.
-/

namespace AudioPlan

/-- What an instruction sets. -/
inductive InstructionKind where
  | mapSource
  | setCodec
  | setChannels
  | setBitRate
  | setLanguage
  | setTitle
  | setDisposition
  | setFilter
  deriving Repr, DecidableEq

/-- The kinds of instruction with their names. -/
def InstructionKind.names : List (String × InstructionKind) :=
  [("map_source", .mapSource), ("set_codec", .setCodec), ("set_channels", .setChannels),
   ("set_bitrate", .setBitRate), ("set_language", .setLanguage), ("set_title", .setTitle),
   ("set_disposition", .setDisposition), ("set_filter", .setFilter)]

/-- The name of a kind of instruction. -/
def InstructionKind.name : InstructionKind → String
  | .mapSource => "map_source"
  | .setCodec => "set_codec"
  | .setChannels => "set_channels"
  | .setBitRate => "set_bitrate"
  | .setLanguage => "set_language"
  | .setTitle => "set_title"
  | .setDisposition => "set_disposition"
  | .setFilter => "set_filter"

/-- The kind of instruction with a name. -/
def InstructionKind.ofName (name : String) : Except Fault InstructionKind :=
  match InstructionKind.names.lookup name with
  | some kind => .ok kind
  | none => .error .badValue

/-- An instruction for one output track. -/
structure Instruction where
  kind : InstructionKind
  /-- The position of the output track among the output audio tracks. -/
  output : Int
  /-- What is set; nothing where a source is mapped. -/
  value : Value := .null
  /-- The position of the mapped track among the input audio tracks. -/
  input : Option Int := none
  deriving Repr

namespace Instruction

/-- The input position as text. -/
def inputText (i : Instruction) : String :=
  match i.input with
  | some n => toString n
  | none => Value.null.shown

/-- A description for people. -/
def description (i : Instruction) : String :=
  let what := match i.kind with
    | .mapSource => "map input audio " ++ i.inputText
    | .setCodec => "codec " ++ i.value.toText
    | .setChannels => i.value.toText ++ " channels"
    | .setBitRate => "bitrate " ++ i.value.toText
    | .setTitle => "title '" ++ i.value.toText ++ "'"
    | .setLanguage => "language '" ++ i.value.toText ++ "'"
    | kind => kind.name ++ " " ++ i.value.toText
  s!"Output {i.output}: " ++ what

/-- The report of an instruction. -/
def document (i : Instruction) : Value :=
  .map ([("kind", .text i.kind.name), ("output_index", .int i.output), ("value", i.value)] ++
    match i.input with
    | some n => [("input_index", .int n)]
    | none => [])

end Instruction

/-- What happened to an input audio track. -/
inductive Action where
  /-- No rule matched; the track is copied as it is. -/
  | unmatchedCopy
  /-- The rule that matched has no operations. -/
  | drop
  /-- The operations of the rule that matched were carried out. -/
  | apply
  deriving Repr, DecidableEq

/-- The name of an action. -/
def Action.name : Action → String
  | .unmatchedCopy => "unmatched_copy"
  | .drop => "drop"
  | .apply => "apply"

/-- The action with a name. -/
def Action.ofName : String → Except Fault Action
  | "unmatched_copy" => .ok .unmatchedCopy
  | "drop" => .ok .drop
  | "apply" => .ok .apply
  | _ => .error .badValue

/-- What was decided about one input audio track. -/
structure Decision where
  /-- The position of the track among the input audio tracks. -/
  input : Nat
  /-- The position of the stream in the file. -/
  stream : Field Int
  action : Action
  /-- The label of the rule that matched. -/
  rule : Option String := none
  /-- The output tracks made from the track. -/
  outputs : List Nat := []
  /-- A note for each output track of a rule. -/
  notes : List String := []
  deriving Repr

/-- A text as a value, null where it is missing. -/
def textOrNull : Option String → Value
  | some s => .text s
  | none => .null

/-- The report of a decision. -/
def Decision.document (d : Decision) : Value :=
  .map [
    ("input_index", .int d.input),
    ("stream_index", d.stream.intValue),
    ("action", .text d.action.name),
    ("rule", textOrNull d.rule),
    ("output_indices", .list (d.outputs.map fun (n : Nat) => .int n)),
    ("notes", .list (d.notes.map .text))]

/-- A stream that is neither audio nor video and is copied unchanged.  Positions are among the
streams of one kind. -/
structure Passthrough where
  kind : StreamKind
  input : Int
  output : Int
  deriving Repr, DecidableEq

/-- The report of a stream that is passed through. -/
def Passthrough.document (p : Passthrough) : Value :=
  .map [("track_type", .text p.kind.name), ("input_index", .int p.input),
    ("output_index", .int p.output)]

/-- A plan for a new file. -/
structure Plan where
  instructions : List Instruction := []
  decisions : List Decision := []
  /-- Whether any rule matched any track. -/
  changed : Bool := false
  /-- The marker of the rule set, empty if nothing changes. -/
  watermark : String := ""
  copyVideo : Bool := false
  passthrough : List Passthrough := []
  /-- Whether the new file has no stream but video and audio. -/
  suppressOther : Bool := false
  deriving Repr

namespace Plan

/-- The plan that changes nothing and decides nothing. -/
def empty : Plan := {}

/-- The number of audio tracks of the new file. -/
def outputCount (p : Plan) : Nat :=
  p.instructions.countP (·.kind == .mapSource)

/-- The instructions for one output track. -/
def forOutput (p : Plan) (output : Int) : List Instruction :=
  p.instructions.filter (·.output == output)

/-- The number of input tracks that were dropped. -/
def dropCount (p : Plan) : Nat :=
  p.decisions.countP (·.action == .drop)

/-- A summary for people. -/
def summary (p : Plan) : String :=
  if !p.changed then "No changes required"
  else
    let plural := if p.outputCount = 1 then "" else "s"
    let dropped := if p.dropCount = 0 then "" else s!", {p.dropCount} dropped"
    s!"{p.outputCount} output audio track{plural}{dropped}"

/-- The report of a plan. -/
def document (p : Plan) : Value :=
  .map [
    ("changed", .bool p.changed),
    ("watermark", .text p.watermark),
    ("instructions", .list (p.instructions.map Instruction.document)),
    ("decisions", .list (p.decisions.map Decision.document)),
    ("copy_video", .bool p.copyVideo),
    ("passthrough", .list (p.passthrough.map Passthrough.document)),
    ("suppress_other", .bool p.suppressOther)]

end Plan

end AudioPlan
