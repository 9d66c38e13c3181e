import AudioPlan.Plan.Basic

/-!
# Command arguments

A plan as arguments for ffmpeg, one token each and not quoted, in four groups by the kind of stream.
The files to read and to write are left to the caller.
-/

namespace AudioPlan

/-- Arguments in four groups. -/
structure Arguments where
  video : List String := []
  audio : List String := []
  other : List String := []
  metadata : List String := []
  deriving Repr, DecidableEq

namespace Arguments

/-- All tokens in the order of the command. -/
def tokens (a : Arguments) : List String :=
  a.video ++ a.audio ++ a.other ++ a.metadata

/-- Whether there is no token at all. -/
def isEmpty (a : Arguments) : Bool :=
  a.tokens.isEmpty

/-- The report of arguments. -/
def document (a : Arguments) : Value :=
  let group (tokens : List String) : Value := .list (tokens.map .text)
  .map [("video", group a.video), ("audio", group a.audio), ("other", group a.other),
    ("metadata", group a.metadata)]

end Arguments

/-- The tokens of one instruction. -/
def Instruction.tokens (i : Instruction) : List String :=
  let value := i.value.toText
  match i.kind with
  | .mapSource => ["-map", "0:a:" ++ i.inputText]
  | .setCodec => [s!"-c:a:{i.output}", value]
  | .setChannels => [s!"-ac:a:{i.output}", value]
  | .setBitRate => [s!"-b:a:{i.output}", value]
  | .setLanguage => [s!"-metadata:s:a:{i.output}", "language=" ++ value]
  | .setTitle => [s!"-metadata:s:a:{i.output}", "title=" ++ value]
  | .setDisposition => [s!"-disposition:a:{i.output}", value]
  | .setFilter => [s!"-filter:a:{i.output}", value]

/-- The letter by which a kind of stream is selected, for the kinds that are passed through. -/
def StreamKind.letter : StreamKind → Except Fault String
  | .subtitle => .ok "s"
  | .data => .ok "d"
  | .attachment => .ok "t"
  | _ => .error .missingKey

/-- The tokens of a stream that is passed through. -/
def Passthrough.tokens (p : Passthrough) : Except Fault (List String) := do
  let letter ← p.kind.letter
  return ["-map", s!"0:{letter}:{p.input}", s!"-c:{letter}:{p.output}", "copy"]

/-- The tokens of all streams that are passed through. -/
def passthroughTokens : List Passthrough → Except Fault (List String)
  | [] => .ok []
  | p :: rest => return (← p.tokens) ++ (← passthroughTokens rest)

/-- The arguments for a plan.  The marker is stored as the copyright of the file; without one the
plan's own is. -/
def Plan.arguments (p : Plan) (marker : Option String) : Except Fault Arguments := do
  if !p.changed then return {}
  let other ← passthroughTokens p.passthrough
  let marker := marker.getD p.watermark
  return {
    video := if p.copyVideo then ["-map", "0:v", "-c:v", "copy"] else []
    audio := p.instructions.flatMap Instruction.tokens
    other := if p.suppressOther then other ++ ["-sn"] else other
    metadata := if marker.isEmpty then [] else ["-metadata", "copyright=" ++ marker] }

end AudioPlan
