import AudioPlan.Rule.Condition
import AudioPlan.Text.Quoted

/-!
# Rules

A rule says which audio tracks it is for and what becomes of them.  Its criteria must all hold for a
track; its operations are carried out in order, each giving one output track, and a rule without
operations drops the track.  A rule set is an ordered list of rules, of which the first that matches
a track applies to it.
-/

namespace AudioPlan

/-- Which codecs a rule is for.  Codec names are in lower case. -/
inductive Selector where
  | all
  | anyOf (codecs : List String)
  | allExcept (codec : String)
  deriving Repr, DecidableEq

/-- A regular expression that the title of a track is searched for. -/
structure TitlePattern where
  pattern : String
  caseSensitive : Bool := false
  deriving Repr, DecidableEq

/-- What a track must be like for a rule to match it. -/
structure Criteria where
  codecs : Selector
  channels : List Condition := []
  bitRate : List Condition := []
  languages : Option (List String) := none
  /-- Flags that must be present with the given value. -/
  dispositions : Option (List (String × Bool)) := none
  title : Option TitlePattern := none
  deriving Repr, DecidableEq

/-- Copies the track as it is. -/
structure CopyOperation where
  title : Option String := none
  /-- Flags to set or clear, in order; none leave the flags alone. -/
  dispositions : List (String × Bool) := []
  deriving Repr, DecidableEq

/-- Encodes the track anew. -/
structure TranscodeOperation where
  codec : String
  channels : Option Int := none
  bitRate : Option Int := none
  title : Option String := none
  /-- Flags to set or clear, in order; none leave the flags alone. -/
  dispositions : List (String × Bool) := []
  filters : Option String := none
  deriving Repr, DecidableEq

/-- What is done with a matched track to get one output track. -/
inductive Operation where
  | copy (operation : CopyOperation)
  | transcode (operation : TranscodeOperation)
  deriving Repr, DecidableEq

/-- The title template of an operation. -/
def Operation.title : Operation → Option String
  | .copy operation => operation.title
  | .transcode operation => operation.title

/-- The flags of an operation. -/
def Operation.dispositions : Operation → List (String × Bool)
  | .copy operation => operation.dispositions
  | .transcode operation => operation.dispositions

/-- One rule. -/
structure Rule where
  criteria : Criteria
  operations : List Operation := []
  name : Option String := none
  deriving Repr, DecidableEq

/-- Rules in order; the first that matches a track applies. -/
structure RuleSet where
  rules : List Rule := []
  deriving Repr, DecidableEq

/-! ## Descriptions -/

/-- The codecs of a rule as a summary shows them. -/
def Selector.description : Selector → String
  | .all => "*"
  | .anyOf codecs => "[" ++ ", ".intercalate (codecs.map Text.quoted) ++ "]"
  | .allExcept codec => "!" ++ codec

/-- The parts of the summary of criteria. -/
def Criteria.parts (c : Criteria) : List String :=
  let conditions (name : String) (conditions : List Condition) : List String :=
    if conditions.isEmpty then []
    else [name ++ "=" ++ ",".intercalate (conditions.map Condition.text)]
  ["codecs=" ++ c.codecs.description] ++ conditions "channels" c.channels ++
    conditions "bitrate" c.bitRate ++
    (match c.languages with
      | some languages => ["languages=" ++ ",".intercalate languages]
      | none => []) ++
    (match c.dispositions with
      | some flags =>
        ["dispositions=" ++
          ",".intercalate (flags.map fun (flag, value) => flag ++ (if value then ":1" else ":0"))]
      | none => []) ++
    (match c.title with
      | some title => ["title=/" ++ title.pattern ++ "/"]
      | none => [])

/-- A short summary of criteria. -/
def Criteria.description (c : Criteria) : String :=
  " ".intercalate c.parts

/-- Whether a rule drops the tracks that it matches. -/
def Rule.drops (r : Rule) : Bool :=
  r.operations.isEmpty

/-- The name of a rule, or the summary of its criteria when it has none. -/
def Rule.label (r : Rule) : String :=
  match r.name with
  | some name => if name.isEmpty then r.criteria.description else name
  | none => r.criteria.description

/-- The codec name that keeps the codec of the source track. -/
def keepCodec : String := "copy"

end AudioPlan
