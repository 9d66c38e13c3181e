import AudioPlan.Fault
import AudioPlan.Value.Basic

/-!
# Tracks

A track is one stream of a media file as it was reported.  Each field has a declared kind, but a
report may hold something else in its place; such a foreign value does harm only where an operation
needs the field.
-/

namespace AudioPlan

/-- What a field holds: a value of its declared kind, or a foreign one. -/
inductive Field (α : Type) where
  | known (a : α)
  | foreign (v : Value)
  deriving Repr, Inhabited

/-- The kinds of stream. -/
inductive StreamKind where
  | video
  | audio
  | subtitle
  | data
  | attachment
  | other (name : String)
  deriving Repr, DecidableEq, Inhabited

/-- The name of a kind of stream. -/
def StreamKind.name : StreamKind → String
  | .video => "video"
  | .audio => "audio"
  | .subtitle => "subtitle"
  | .data => "data"
  | .attachment => "attachment"
  | .other name => name

/-- The kind of stream with a name. -/
def StreamKind.ofName : String → StreamKind
  | "video" => .video
  | "audio" => .audio
  | "subtitle" => .subtitle
  | "data" => .data
  | "attachment" => .attachment
  | name => .other name

/-- One stream of a media file. -/
structure Track where
  /-- The position of the stream in the file. -/
  index : Field Int := .known 0
  kind : StreamKind := .audio
  /-- The name of the encoding, none if it was not identified. -/
  codec : Field (Option String) := .known none
  /-- The number of channels, 0 if it is not known. -/
  channels : Field Int := .known 0
  /-- Bits per second, none if they are not known. -/
  bitRate : Field (Option Int) := .known none
  language : Field String := .known "und"
  title : Field String := .known ""
  channelLayout : Field String := .known ""
  /-- Flags in the order of the report. -/
  disposition : Field (List (String × Int)) := .known []
  deriving Repr, Inhabited

namespace Field

/-- A number as a value. -/
def intValue : Field Int → Value
  | .known n => .int n
  | .foreign v => v

/-- A number that may be missing as a value. -/
def optionalIntValue : Field (Option Int) → Value
  | .known (some n) => .int n
  | .known none => .null
  | .foreign v => v

/-- A text as a value. -/
def textValue : Field String → Value
  | .known s => .text s
  | .foreign v => v

/-- A number that is always there, as one that may be missing. -/
def present : Field Int → Field (Option Int)
  | .known n => .known (some n)
  | .foreign v => .foreign v

end Field

namespace Track

/-- The codec as text, empty if there is none. -/
def codecText (t : Track) : Except Fault String :=
  match t.codec with
  | .known codec => .ok (codec.getD "")
  | .foreign v => if v.given then .error .noSuchPart else .ok ""

/-- Whether the encoding of the stream was identified. -/
def hasCodec (t : Track) : Bool :=
  match t.codec with
  | .known (some codec) => !codec.isEmpty && codec != "none"
  | .known none => false
  | .foreign v => v.given

/-- The language, where nothing stands for an undetermined one. -/
def languageOrUnd (t : Track) : Field String :=
  match t.language with
  | .known language => .known (if language.isEmpty then "und" else language)
  | .foreign v => if v.given then .foreign v else .known "und"

/-- The title as text. -/
def titleText (t : Track) : Except Fault String :=
  match t.title with
  | .known title => .ok title
  | .foreign v => if v.given then .error .wrongKind else .ok ""

end Track

end AudioPlan
