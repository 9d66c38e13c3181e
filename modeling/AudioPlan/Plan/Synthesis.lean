import AudioPlan.Log.Record
import AudioPlan.Marker
import AudioPlan.Plan.Basic
import AudioPlan.Title
import AudioPlan.Track.Disposition
import AudioPlan.Track.Limits

/-!
# Synthesis of plans

A rule set is applied to the audio tracks of a file, visited once in their order.  The input
position goes up by one with every track, the output position with every output track that is made:
none for a dropped track, one for a track without a matching rule, one for each operation of the
matching rule.

* `decide` deals with one track at given positions;
* `decideAll` threads the positions through all tracks;
* `synthesize` assembles the plan.
-/

namespace AudioPlan

/-- The part that records of the synthesis are from. -/
def synthesisLogger : String := "trackrules.rules.synthesizer"

/-- Instructions for one output track, and a note on them. -/
structure Output where
  instructions : List Instruction
  note : String

/-- The instructions that copy a track. -/
def copyStream (input output : Nat) : List Instruction :=
  [{ kind := .mapSource, output := output, input := some input },
   { kind := .setCodec, output := output, value := .text keepCodec }]

/-- The instructions and notes for the title of an output track. -/
def titleOutput (t : Track) (rule : Rule) (operation : Operation) (output : Nat)
    (channels bitRate : Field (Option Int)) : Except Fault (List Instruction × List String) := do
  match operation.title with
  | none | some "" => return ([], [])
  | some template =>
    let title ← expandTitle template t (some operation) rule.criteria.title channels bitRate
    return ([{ kind := .setTitle, output := output, value := .text title }],
      ["renamed to \"" ++ title ++ "\""])

/-- The instructions and notes for the flags of an output track. -/
def flagsOutput (operation : Operation) (output : Nat) : List Instruction × List String :=
  match operation.dispositions with
  | [] => ([], [])
  | flags =>
    let text := encodeFlags flags
    ([{ kind := .setDisposition, output := output, value := .text text }],
      ["dispositions " ++ text])

/-- The output track of a copy operation. -/
def copyOutput (t : Track) (rule : Rule) (o : CopyOperation) (input output : Nat) :
    Except Fault Output := do
  let (title, titleNotes) ← titleOutput t rule (.copy o) output (.known none) t.bitRate
  let (flags, flagsNotes) := flagsOutput (.copy o) output
  return { instructions := copyStream input output ++ title ++ flags,
           note := ", ".intercalate (["copying track"] ++ titleNotes ++ flagsNotes) }

/-- The instructions and notes for a parameter of an output track. -/
def resolvedOutput (kind : InstructionKind) (unit : String) (output : Nat)
    (r : Resolved (Field (Option Int))) : Except Fault (List Instruction × List String) := do
  if r.emit then
    let value := r.value.optionalIntValue
    let text ← value.written
    return ([{ kind := kind, output := output, value := value }], (text ++ unit) :: r.note.toList)
  else return ([], r.note.toList)

/-- The codec that a transcode operation aims at. -/
def targetCodec (t : Track) (o : TranscodeOperation) : Except Fault String :=
  if Text.lowerText o.codec == keepCodec then t.codecText else .ok o.codec

/-- The instructions and notes for the filters of an output track. -/
def filterOutput (o : TranscodeOperation) (output : Nat) : List Instruction × List String :=
  match o.filters with
  | none | some "" => ([], [])
  | some filters =>
    ([{ kind := .setFilter, output := output, value := .text filters }],
      ["filters \"" ++ filters ++ "\""])

/-- The output track of a transcode operation. -/
def transcodeOutput (t : Track) (rule : Rule) (o : TranscodeOperation) (input output : Nat) :
    Except Fault Output := do
  let codec ← targetCodec t o
  let channels ← resolveChannelField codec t.channels o.channels
  let (setChannels, channelNotes) ← resolvedOutput .setChannels "ch" output channels
  let bitRate ← resolveBitRateField codec t.bitRate o.bitRate
  let (setBitRate, bitRateNotes) ← resolvedOutput .setBitRate "bps" output bitRate
  let (title, titleNotes) ←
    titleOutput t rule (.transcode o) output channels.value bitRate.value
  let (flags, flagsNotes) := flagsOutput (.transcode o) output
  let (filters, filterNotes) := filterOutput o output
  return {
    instructions :=
      [{ kind := .mapSource, output := output, input := some input },
       { kind := .setCodec, output := output, value := .text codec }] ++
        setChannels ++ setBitRate ++
        [{ kind := .setLanguage, output := output, value := t.languageOrUnd.textValue }] ++
        title ++ flags ++ filters
    note := ", ".intercalate (["transcoding to " ++ Text.upperText codec] ++ channelNotes ++
      bitRateNotes ++ titleNotes ++ flagsNotes ++ filterNotes) }

/-- The output track of an operation. -/
def operationOutput (t : Track) (rule : Rule) (operation : Operation) (input output : Nat) :
    Except Fault Output :=
  match operation with
  | .copy o => copyOutput t rule o input output
  | .transcode o => transcodeOutput t rule o input output

/-- The output tracks of operations, from an output position on. -/
def operationOutputs (t : Track) (rule : Rule) (input : Nat) :
    (output : Nat) → List Operation → Logged (List Output)
  | _, [] => pure []
  | output, operation :: rest => do
    let made ← operationOutput t rule operation input output
    Logged.write synthesisLogger .info s!" -> output {output}: {made.note}"
    let others ← operationOutputs t rule input (output + 1) rest
    return made :: others

/-- A track in log lines. -/
def Track.logText (t : Track) : String :=
  s!"Track {t.index.intValue.toText} (title: \"{t.title.textValue.toText}\")"

/-- What becomes of one track. -/
structure TrackPlan where
  decision : Decision
  instructions : List Instruction

/-- Decides about one track at given positions. -/
def decide (rs : RuleSet) (input output : Nat) (t : Track) : Logged TrackPlan := do
  match ← t.findRule rs with
  | none =>
    Logged.write synthesisLogger .info s!"{t.logText} matched no rule, copying track"
    return {
      decision := { input := input, stream := t.index, action := .unmatchedCopy,
                    outputs := [output] }
      instructions := copyStream input output }
  | some rule =>
    Logged.write synthesisLogger .info s!"{t.logText} matches rule \"{rule.label}\""
    if rule.drops then
      Logged.write synthesisLogger .info " -> removing track"
      return {
        decision := { input := input, stream := t.index, action := .drop, rule := some rule.label }
        instructions := [] }
    let outputs ← operationOutputs t rule input output rule.operations
    return {
      decision := {
        input := input, stream := t.index, action := .apply, rule := some rule.label,
        outputs := List.range' output outputs.length, notes := outputs.map Output.note }
      instructions := outputs.flatMap Output.instructions }

/-- Decides about all tracks, from given positions on. -/
def decideAll (rs : RuleSet) : (input output : Nat) → List Track → Logged (List TrackPlan)
  | _, _, [] => pure []
  | input, output, t :: rest => do
    let first ← decide rs input output t
    let others ← decideAll rs (input + 1) (output + first.decision.outputs.length) rest
    return first :: others

/-! ## Other streams -/

/-- Whether streams of a kind may be passed through. -/
def StreamKind.passes : StreamKind → Bool
  | .subtitle | .data | .attachment => true
  | _ => false

/-- The streams that are passed through, with the kinds of the streams before them: all of them, and
those that were kept. -/
def passthroughFrom (seen kept : List StreamKind) : List Track → Logged (List Passthrough)
  | [] => pure []
  | t :: rest => do
    if !t.kind.passes then passthroughFrom seen kept rest
    else if !t.hasCodec then
      Logged.write synthesisLogger .info
        s!"Excluding {t.kind.name} stream {t.index.intValue.toText}: codec not identified"
      passthroughFrom (t.kind :: seen) kept rest
    else
      let others ← passthroughFrom (t.kind :: seen) (t.kind :: kept) rest
      return ⟨t.kind, seen.count t.kind, kept.count t.kind⟩ :: others

/-- The streams that are passed through: those of a suitable kind whose encoding is known, because
copying others makes writing the file fail. -/
def planPassthrough (others : List Track) : Logged (List Passthrough) :=
  passthroughFrom [] [] others

/-! ## Plans -/

/-- Applies a rule set to the audio tracks of a file; the other streams are considered when that
changes anything. -/
def synthesize (tracks : List Track) (rs : RuleSet) (others : List Track) : Logged Plan := do
  let made ← decideAll rs 0 0 tracks
  let decisions := made.map TrackPlan.decision
  if decisions.all (·.action == .unmatchedCopy) then
    Logged.write synthesisLogger .info "No rule matched any audio track, nothing to do"
    return { decisions := decisions }
  let passthrough ← planPassthrough others
  let marker ← rs.marker
  return {
    instructions := made.flatMap TrackPlan.instructions
    decisions := decisions
    changed := true
    watermark := marker
    copyVideo := true
    passthrough := passthrough
    suppressOther := passthrough.isEmpty }

end AudioPlan
