import AudioPlan.Log.Record
import AudioPlan.Text.Case
import AudioPlan.Text.Number
import AudioPlan.Track.Basic

/-!
# Probe reports

A media file is described by a report that some other program made: a mapping with a list of streams
and a part about the file as a whole.  Reports are loose about kinds, so numbers may come as text,
tags may be in any letter case, and a stream may be malformed.  What can be understood is taken over
and the rest is warned about.

* `Value.wholeNumber`, `readTag` and `readFlags` read the parts of a stream;
* `readTrack` reads a stream, `readTracks` all of them;
* `Probe.read` reads a report.
-/

namespace AudioPlan

/-- The part that records of the reading are from. -/
def probeLogger : String := "trackrules.introspector.parsers"

/-- The integer that a loose value stands for, without its fraction; nothing if it stands for
none. -/
def Value.wholeNumber : Value → Except Fault (Option Int)
  | .int n => .ok (some n)
  | .float (.infinity _) => .error .outOfRange
  | .float x => .ok x.truncate?
  | .text s => .ok (Text.readInt? s)
  | _ => .ok none

/-- The kind of a stream that is none of those known by name. -/
def StreamKind.unknown : StreamKind := .other "other"

/-- The kind of stream that a report names. -/
def StreamKind.ofReport (v : Value) : Except Fault StreamKind :=
  match v with
  | .text s =>
    match StreamKind.ofName s with
    | .other _ => .ok .unknown
    | kind => .ok kind
  | .list _ | .map _ | .keyed _ => if v.given then .error .wrongKind else .ok .unknown
  | _ => .ok .unknown

/-- The value of a tag: the one whose name is exactly the wanted one, else the first whose name is
the same in another letter case. -/
def tagNamed (name : String) (entries : List (String × Value)) : Value :=
  match entries.lookup name with
  | some v => v
  | none =>
    match entries.find? fun (key, _) => Text.foldText key == Text.foldText name with
    | some (_, v) => v
    | none => .null

/-- The value of a tag in what a report has for tags. -/
def readTag (tags : Value) (name : String) : Except Fault Value :=
  if !tags.given then .ok .null
  else
    match tags with
    | .map entries => .ok (tagNamed name entries)
    | .list items =>
      if items.any fun v => match v with | .text s => s == name | _ => false then .error .wrongKind
      else .error .noSuchPart
    | .text s => if s.contains name then .error .wrongKind else .error .noSuchPart
    | _ => .error .wrongKind

/-- Flags in the order of the report, 1 for every number but 0; what is no number is left out. -/
def readFlagEntries : List (String × Value) → Except Fault (List (String × Int))
  | [] => .ok []
  | (flag, v) :: rest => do
    let number ← v.wholeNumber
    let others ← readFlagEntries rest
    match number with
    | some n => return (flag, if n = 0 then 0 else 1) :: others
    | none => return others

/-- The flags of a stream. -/
def readFlags : Value → Except Fault (List (String × Int))
  | .map entries => readFlagEntries entries
  | _ => .ok []

/-- A value as a text, none for null. -/
def Value.looseText : Value → Option String
  | .null => none
  | v => some v.toText

/-- A value as a text, with a default for one that does not count as given. -/
def Value.textOr (default : String) (v : Value) : String :=
  if v.given then v.toText else default

/-- The codec that a report names. -/
def readCodec (v : Value) : Field (Option String) :=
  match v with
  | .text s => .known (if s.isEmpty || s == "none" then none else some s)
  | v => if v.given then .foreign v else .known none

/-- The text that a report has for the layout of the channels. -/
def readLayout (v : Value) : Field String :=
  match v with
  | .text s => .known s
  | v => if v.given then .foreign v else .known ""

/-- One stream of a report. -/
def readTrack (stream : List (String × Value)) : Except Fault Track := do
  let index ← (Value.get "index" stream).wholeNumber
  let kind ← StreamKind.ofReport (Value.get "codec_type" stream)
  let basic : Track :=
    { index := .known (index.getD 0), kind := kind,
      codec := readCodec (Value.get "codec_name" stream) }
  if kind != .audio then return basic
  let tags := Value.get "tags" stream
  let language ← readTag tags "language"
  let title ← readTag tags "title"
  let channels ← (Value.get "channels" stream).wholeNumber
  let bitRate ← (Value.get "bit_rate" stream).wholeNumber
  let disposition ← readFlags (Value.get "disposition" stream)
  return { basic with
    channels := .known (channels.getD 0)
    bitRate := .known bitRate
    language := .known (language.textOr "und")
    title := .known (title.looseText.getD "")
    channelLayout := readLayout (Value.get "channel_layout" stream)
    disposition := .known disposition }

/-- What was made of a list of streams. -/
structure Streams where
  tracks : List Track := []
  warnings : List String := []
  deriving Repr

/-- The streams of a report.  Malformed ones are left out, and so are those whose position was taken
by an earlier one, which are `seen`. -/
def readTracks (seen : List Int) : List Value → Except Fault Streams
  | [] => .ok {}
  | .map stream :: rest => do
    let t ← readTrack stream
    match t.index with
    | .known n =>
      if n ∈ seen then
        let others ← readTracks seen rest
        return { others with
          warnings := s!"Duplicate stream index {n}, skipping" :: others.warnings }
      else
        let others ← readTracks (n :: seen) rest
        return { others with tracks := t :: others.tracks }
    | .foreign _ =>
      let others ← readTracks seen rest
      return { others with tracks := t :: others.tracks }
  | v :: rest => do
    let others ← readTracks seen rest
    return { others with
      warnings := ("Ignoring malformed stream entry: " ++ v.shown) :: others.warnings }

/-- What is known about a media file. -/
structure Probe where
  tracks : List Track := []
  /-- The marker text of the file, empty if there is none. -/
  marker : String := ""
  /-- The format of the file, as it was reported. -/
  container : Value := .null
  /-- The path of the file, as it was given or reported. -/
  path : Value := .null
  warnings : List String := []
  deriving Repr

namespace Probe

/-- The tag that holds markers unless another one is asked for. -/
def defaultMarkerTag : String := "COPYRIGHT"

/-- The audio tracks in the order of the file. -/
def audio (p : Probe) : List Track :=
  p.tracks.filter (·.kind == .audio)

/-- The tracks that are neither audio nor video. -/
def others (p : Probe) : List Track :=
  p.tracks.filter fun t => t.kind != .audio && t.kind != .video

/-- The part of a report about the file as a whole. -/
def readFormat (v : Value) : Except Fault (List (String × Value)) :=
  match v with
  | .map entries => .ok entries
  | v => if v.given then .error .noSuchPart else .ok []

/-- What a report with a list of streams says. -/
def ofReport (report : List (String × Value)) (streams : List Value) (path : Value)
    (markerTag : String) : Except Fault Probe := do
  let format ← readFormat (Value.get "format" report)
  let marker ← readTag (Value.get "tags" format) markerTag
  let read ← readTracks [] streams
  return {
    tracks := read.tracks
    marker := marker.textOr ""
    container := Value.get "format_name" format
    path := match path with | .null => Value.get "filename" format | path => path
    warnings := read.warnings ++
      if read.tracks.isEmpty then ["No streams found in file"] else [] }

/-- Writes the warnings of a probe as records. -/
def logWarnings : List String → Logged Unit
  | [] => pure ()
  | warning :: rest => do
    Logged.write probeLogger .warning warning
    logWarnings rest

/-- What a report says about a file, nothing if it has no list of streams.  A given path stands for
the reported one. -/
def read (report : Value) (path : Value) (markerTag : String) : Logged (Option Probe) := do
  match report with
  | .map entries =>
    if let .list streams := Value.get "streams" entries then
      let probe ← ofReport entries streams path markerTag
      logWarnings probe.warnings
      return some probe
  | _ => pure ()
  Logged.write probeLogger .info "Probe data missing or has no stream list"
  return none

end Probe

end AudioPlan
