import AudioPlan.Text.Replace
import AudioPlan.Track.Matching

/-!
# Titles

The title of an output track comes from a template with tags in braces.  Numbered tags stand for the
groups of the rule's title pattern, found again in the title of the source; the other tags stand for
properties of the source and of the output.  Replacements are made one after another, a tag without
a value stays as it is, and the characters that break a command argument give way to look-alikes.

* `captureReplacements` and `tagReplacements` are the two lists of replacements;
* `expandTitle` makes the title.
-/

namespace AudioPlan

/-- A tag and the text that replaces it, none where the tag stays. -/
abbrev Replacement := String × Option String

/-- Makes replacements one after another. -/
def substitute (text : List Char) (replacements : List Replacement) : List Char :=
  replacements.foldl (fun text (tag, value) =>
    match value with
    | some value => Text.replaceAll tag.toList value.toList text
    | none => text) text

/-- The characters that break a command argument, with their look-alikes. -/
def unsafeCharacters : List (Char × Char) :=
  [(',', '\u201a'), ('"', '\u2033')]

/-- A character that is safe in a command argument. -/
def safeCharacter (c : Char) : Char :=
  (unsafeCharacters.lookup c).getD c

/-- A title that is safe in a command argument. -/
def sanitize (title : List Char) : List Char :=
  title.map safeCharacter

/-- The text of a channel count as people say it. -/
def fancyChannels (n : Int) : Except Fault String :=
  if n = 1 then .ok "Mono"
  else if n = 2 then .ok "Stereo"
  else (Text.writeInt (n - 1)).map (· ++ ".1")

/-- The text of a number of thousands, without a fraction of zero. -/
def thousandsText (x : Binary64) : Except Fault String :=
  match x with
  | .infinity _ => .error .outOfRange
  | x =>
    match x.toInt? with
    | some n => .ok (toString n)
    | none => .ok (Binary64.plain.render x)

/-- Bits per second in thousands. -/
def kilobits (n : Int) : Except Fault String :=
  thousandsText (.ofSignedRatio n 1000)

/-! ## Foreign values -/

/-- The channel count of a foreign value as people say it. -/
def foreignFancy (v : Value) : Except Fault String :=
  if v.equalsInt 1 then .ok "Mono"
  else if v.equalsInt 2 then .ok "Stereo"
  else
    match v with
    | .bool b => fancyChannels b.toNat
    | .float x => .ok (Binary64.plain.render (x.add (.ofInt (-1))) ++ ".1")
    | _ => .error .wrongKind

/-- A foreign value of bits per second in thousands. -/
def foreignKilobits (v : Value) : Except Fault String :=
  match v with
  | .bool b => kilobits b.toNat
  | .float (.finite negative m e) =>
    let (num, den) := Binary64.ratio m e
    thousandsText (.ofRatio negative num (1000 * den))
  | .float x => .ok (Binary64.plain.render x)
  | _ => .error .wrongKind

/-! ## Replacements -/

/-- The tag of a group. -/
def groupTag (n : Nat) : String :=
  "\x7b" ++ toString n ++ "\x7d"

/-- The replacements of one match, in the place of earlier ones with the same tag. -/
def putGroups : (n : Nat) → List (Option String) → List (String × String) → List (String × String)
  | _, [], groups => groups
  | n, group :: rest, groups => putGroups (n + 1) rest (put (groupTag n) (group.getD "") groups)

/-- The replacements for the groups of a pattern.  All its matches in the title are gone through;
the last one wins, and a group that took no part in it is empty. -/
def captureGroups (t : Track) (pattern : Option TitlePattern) :
    Except Fault (List (String × String)) := do
  let some pattern := pattern | return []
  let r ← pattern.regex
  return (r.findAll (← t.titleText)).foldl (fun groups m => putGroups 1 m.groups groups) []

/-- The codec of an output track: that of the operation, unless it keeps that of the source. -/
def outputCodec (t : Track) : Option Operation → Except Fault String
  | some (.transcode o) =>
    if Text.lowerText o.codec == keepCodec then t.codecText else .ok o.codec
  | _ => t.codecText

/-- The channel count that the tags of the output show: the given one, else that of the operation,
else that of the source. -/
def shownChannels (t : Track) (operation : Option Operation) (given : Field (Option Int)) :
    Field (Option Int) :=
  match given, operation with
  | .known none, some (.transcode o) =>
    match o.channels with
    | some n => .known (some n)
    | none => t.channels.present
  | .known none, _ => t.channels.present
  | given, _ => given

/-- The text of a number for its tag, none where it is missing or zero. -/
def numberTag (number : Field (Option Int)) (text : Int → Except Fault String)
    (foreign : Value → Except Fault String) : Except Fault (Option String) :=
  match number with
  | .known (some n) => if n = 0 then .ok none else some <$> text n
  | .known none => .ok none
  | .foreign v => if v.given then some <$> foreign v else .ok none

/-- A field as text, which must not be foreign. -/
def fieldText (field : Field String) (fault : Fault) : Except Fault String :=
  match field with
  | .known s => .ok s
  | .foreign v => if v.given then .error fault else .ok ""

/-- The replacements for the properties of a track and its output. -/
def tagReplacements (t : Track) (operation : Option Operation)
    (outputChannels outputBitRate : Field (Option Int)) : Except Fault (List Replacement) := do
  let language ← fieldText t.languageOrUnd .noSuchPart
  let codec ← t.codecText
  let newCodec ← outputCodec t operation
  let plain (number : Field (Option Int)) : Except Fault (Option String) :=
    numberTag number Text.writeInt Value.written
  let fancy (number : Field (Option Int)) : Except Fault (Option String) :=
    numberTag number fancyChannels foreignFancy
  let thousands (number : Field (Option Int)) : Except Fault (Option String) :=
    numberTag number kilobits foreignKilobits
  let channels := t.channels.present
  let newChannels := shownChannels t operation outputChannels
  let inChannels ← plain channels
  let inFancy ← fancy channels
  let outChannels ← plain newChannels
  let outFancy ← fancy newChannels
  let inBitRate ← plain t.bitRate
  let inThousands ← thousands t.bitRate
  let outBitRate ← plain outputBitRate
  let outThousands ← thousands outputBitRate
  let title ← fieldText t.title .wrongKind
  let layout ← fieldText t.channelLayout .wrongKind
  return [
    ("\x7btitle\x7d", some title),
    ("\x7blang\x7d", some (Text.lowerText language)),
    ("\x7bLANG\x7d", some (Text.upperText language)),
    ("\x7bi_codec\x7d", some (Text.lowerText codec)),
    ("\x7bi_CODEC\x7d", some (Text.upperText codec)),
    ("\x7bo_codec\x7d", some (Text.lowerText newCodec)),
    ("\x7bo_CODEC\x7d", some (Text.upperText newCodec)),
    ("\x7bi_channels\x7d", inChannels),
    ("\x7bi_channels_fancy\x7d", inFancy),
    ("\x7bi_channel_layout\x7d", if layout.isEmpty then none else some layout),
    ("\x7bo_channels\x7d", outChannels),
    ("\x7bo_channels_fancy\x7d", outFancy),
    ("\x7bi_bitrate\x7d", inBitRate),
    ("\x7bi_bitrate_kbps\x7d", inThousands),
    ("\x7bo_bitrate\x7d", outBitRate),
    ("\x7bo_bitrate_kbps\x7d", outThousands)]

/-- The title of an output track: the groups first, then the properties, then safety. -/
def expandTitle (template : String) (t : Track) (operation : Option Operation)
    (pattern : Option TitlePattern) (outputChannels outputBitRate : Field (Option Int)) :
    Except Fault String := do
  let groups ← captureGroups t pattern
  let tags ← tagReplacements t operation outputChannels outputBitRate
  let text := substitute template.toList (groups.map fun (tag, value) => (tag, some value))
  return String.ofList (sanitize (substitute text tags))

end AudioPlan
