import AudioPlan.Text.Case
import AudioPlan.Track.Basic

/-!
# Limits of encoders

Some encoders cannot produce more than a fixed number of channels or bits per second.  Resolving a
parameter of an output track means taking the requested value or that of the source, cutting it to
the ceiling of the codec, and saying whether the encoder has to be told.  A note says what was cut,
so a value with too many digits to be written cannot be cut.
-/

namespace AudioPlan

/-- Ceilings on the channel count, by codec. -/
def channelCeilings : List (String × Int) :=
  [("ac3", 6), ("mp3", 2), ("libmp3lame", 2)]

/-- Ceilings on the bit rate, by codec. -/
def bitRateCeilings : List (String × Int) :=
  [("ac3", 640000), ("mp3", 320000), ("libmp3lame", 320000)]

/-- The ceiling on the channel count of a codec, in any letter case. -/
def channelCeiling (codec : String) : Option Int :=
  channelCeilings.lookup (Text.lowerText codec)

/-- The ceiling on the bit rate of a codec, in any letter case. -/
def bitRateCeiling (codec : String) : Option Int :=
  bitRateCeilings.lookup (Text.lowerText codec)

/-- The codec whose encoder fails on unusual layouts of many channels. -/
def aacCodec : String := "aac"

/-- The channel count that the AAC encoder is held to. -/
def aacSafeChannels : Int := 8

/-- Sources with more channels than this are held to the safe count. -/
def aacSafeThreshold : Int := 6

/-- One parameter of an output track. -/
structure Resolved (α : Type) where
  /-- The value that the output will have. -/
  value : α
  /-- Whether the encoder has to be told. -/
  emit : Bool
  /-- Why the value is not the one asked for. -/
  note : Option String := none
  deriving Repr

/-- The same parameter with its value in another form. -/
def Resolved.map {α β : Type} (f : α → β) (r : Resolved α) : Resolved β :=
  { value := f r.value, emit := r.emit, note := r.note }

/-- The note on the safe channel count. -/
def safeNote : String :=
  s!"forcing {aacSafeChannels} channels for AAC to avoid exotic layout issues"

/-- The note on a value that was cut to a ceiling. -/
def cutNote (codec : String) (ceiling : Int) (unit : String) (was : Value) :
    Except Fault String := do
  return s!"{codec} limited to {ceiling}{unit} (was {← was.written})"

/-- A parameter that is cut to a ceiling. -/
def cutToCeiling (codec : String) (ceiling : Int) (unit : String) (was : Value) :
    Except Fault (Resolved (Option Int)) := do
  return ⟨some ceiling, true, some (← cutNote codec ceiling unit was)⟩

/-- The unit of channel counts in notes. -/
def channelUnit : String := " channels"

/-- The unit of bit rates in notes. -/
def bitRateUnit : String := "bps"

/-- Whether a codec is AAC, in any letter case. -/
def isAac (codec : String) : Bool :=
  Text.lowerText codec == aacCodec

/-- The channel count of an output track.

The requested count is taken, else eight for AAC from a source with more than six channels, else the
count of the source, where 0 means that it is not known; the ceiling of the codec cuts it. -/
def resolveChannels (codec : String) (source : Int) (requested : Option Int) :
    Except Fault (Resolved (Option Int)) :=
  let forced := isAac codec && aacSafeThreshold < source && requested.isNone
  let wanted := if forced then aacSafeChannels else requested.getD source
  match channelCeiling codec with
  | some ceiling =>
    if ceiling < wanted then cutToCeiling codec ceiling channelUnit (.int wanted)
    else .ok (settle forced wanted)
  | none => .ok (settle forced wanted)
where
  /-- The outcome for a count within the ceiling. -/
  settle (forced : Bool) (wanted : Int) : Resolved (Option Int) :=
    if requested.isSome || wanted != source || forced then
      ⟨some wanted, true, if forced then some safeNote else none⟩
    else ⟨if wanted = 0 then none else some wanted, false, none⟩

/-- The bit rate of an output track.

A requested rate is always told to the encoder, cut to the ceiling of the codec; the rate of the
source only if it is above the ceiling. -/
def resolveBitRate (codec : String) (source : Option Int) (requested : Option Int) :
    Except Fault (Resolved (Option Int)) :=
  let cut (rate : Int) : Option (Except Fault (Resolved (Option Int))) := do
    let ceiling ← bitRateCeiling codec
    if ceiling < rate then some (cutToCeiling codec ceiling bitRateUnit (.int rate)) else none
  match requested with
  | some rate => (cut rate).getD (.ok ⟨some rate, true, none⟩)
  | none => (source.bind cut).getD (.ok ⟨source, false, none⟩)

/-! ## Foreign values -/

/-- Whether a foreign value is above a number. -/
def foreignAbove (v : Value) (n : Int) : Except Fault Bool :=
  match v.compareInt? n with
  | some order => .ok (order == .gt)
  | none => if v.isNumber then .ok false else .error .wrongKind

/-- The channel count of an output track from a source that may be foreign. -/
def resolveChannelField (codec : String) (source : Field Int) (requested : Option Int) :
    Except Fault (Resolved (Field (Option Int))) := do
  match source with
  | .known n => return (← resolveChannels codec n requested).map .known
  | .foreign v =>
    let above ← if isAac codec then foreignAbove v aacSafeThreshold else pure false
    match requested, above with
    | some n, _ => return (← resolveChannels codec n (some n)).map .known
    | none, true => return ⟨.known (some aacSafeChannels), true, some safeNote⟩
    | none, false =>
      if let some ceiling := channelCeiling codec then
        if ← foreignAbove v ceiling then
          return (← cutToCeiling codec ceiling channelUnit v).map .known
      return ⟨if v.given then .foreign v else .known none, false, none⟩

/-- The bit rate of an output track from a source that may be foreign. -/
def resolveBitRateField (codec : String) (source : Field (Option Int)) (requested : Option Int) :
    Except Fault (Resolved (Field (Option Int))) := do
  match source, requested with
  | .known n, _ => return (← resolveBitRate codec n requested).map .known
  | .foreign _, some n => return (← resolveBitRate codec none (some n)).map .known
  | .foreign v, none =>
    if let some ceiling := bitRateCeiling codec then
      if ← foreignAbove v ceiling then
        return (← cutToCeiling codec ceiling bitRateUnit v).map .known
    return ⟨.foreign v, false, none⟩

end AudioPlan
