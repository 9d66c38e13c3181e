import AudioPlan.Regex.Matcher
import AudioPlan.Rule.Basic
import AudioPlan.Text.Case
import AudioPlan.Track.Basic

/-!
# Matching tracks against rules

Whether a track meets the criteria of a rule, and which rule of a set applies to it.  Criteria are
tried in a fixed order and the first that fails decides, so a foreign value behind it does no harm.
-/

namespace AudioPlan

/-- Whether a foreign value meets a condition.  What is no number equals none and cannot be ordered
against one. -/
def Condition.holdsForeign (c : Condition) (v : Value) : Except Fault Bool :=
  match v.compareInt? c.bound with
  | some order => .ok (c.comparison.admits order)
  | none => if v.isNumber || c.comparison == .equal then .ok false else .error .wrongKind

/-- Whether a foreign value meets all conditions; the first that fails decides. -/
def foreignMeetsAll (v : Value) : List Condition → Except Fault Bool
  | [] => .ok true
  | c :: rest => do
    if ← c.holdsForeign v then foreignMeetsAll v rest else return false

/-- Whether a number meets all conditions.  A missing number meets none. -/
def meetsAll (number : Field (Option Int)) (conditions : List Condition) : Except Fault Bool :=
  if conditions.isEmpty then .ok true
  else
    match number with
    | .known (some n) => .ok (conditions.all fun c => c.holds n)
    | .known none | .foreign .null => .ok false
    | .foreign v => foreignMeetsAll v conditions

/-- Whether a codec name in lower case is among those a rule is for. -/
def Selector.accepts (codec : String) : Selector → Bool
  | .all => true
  | .anyOf codecs => codec ∈ codecs
  | .allExcept other => codec != other

namespace Track

/-- Whether the codec is among those a rule is for, in any letter case. -/
def meetsCodecs (t : Track) : Selector → Except Fault Bool
  | .all => .ok true
  | selector => do return selector.accepts (Text.lowerText (← t.codecText))

/-- Whether the language is among those a rule is for. -/
def meetsLanguages (t : Track) (languages : List String) : Bool :=
  match t.languageOrUnd with
  | .known language => language ∈ languages
  | .foreign _ => false

/-- Whether a foreign value in place of the flags has a flag with a value. -/
def foreignHasFlag (v : Value) (flag : String) (value : Bool) : Except Fault Bool :=
  match v with
  | .map entries => .ok ((entries.lookup flag).any fun v => v.equalsInt value.toNat)
  | .list items =>
    if items.any fun v => match v with | .text s => s == flag | _ => false then .error .wrongKind
    else .ok false
  | .text s => if s.contains flag then .error .wrongKind else .ok false
  | _ => .error .wrongKind

/-- Whether the track has a flag with a value. -/
def hasFlag (t : Track) (flag : String) (value : Bool) : Except Fault Bool :=
  match t.disposition with
  | .known flags => .ok (flags.lookup flag == some (value.toNat : Int))
  | .foreign v => foreignHasFlag v flag value

/-- Whether the track has all flags with their values. -/
def meetsDispositions (t : Track) : List (String × Bool) → Except Fault Bool
  | [] => .ok true
  | (flag, value) :: rest => do
    if ← t.hasFlag flag value then t.meetsDispositions rest else return false

end Track

/-- The regular expression of a title pattern. -/
def TitlePattern.regex (p : TitlePattern) : Except Fault Regex :=
  match Regex.compile p.pattern (!p.caseSensitive) with
  | .ok r => .ok r
  | .error (.problem _ _) => .error .badPattern
  | .error .twoAlphabets | .error (.tooManyDigits _) => .error .badValue
  | .error .tooManyRounds => .error .outOfRange

/-- The first place in a title where a pattern is found. -/
def TitlePattern.search (p : TitlePattern) (title : String) :
    Except Fault (Option Regex.Match) := do
  return (← p.regex).search title

namespace Track

/-- The first place in the title of the track where a pattern is found. -/
def searchTitle (t : Track) (p : TitlePattern) : Except Fault (Option Regex.Match) := do
  let r ← p.regex
  return r.search (← t.titleText)

/-- Whether the track meets all criteria. -/
def meets (t : Track) (c : Criteria) : Except Fault Bool := do
  unless ← t.meetsCodecs c.codecs do return false
  unless ← meetsAll t.channels.present c.channels do return false
  unless ← meetsAll t.bitRate c.bitRate do return false
  if let some languages := c.languages then
    unless t.meetsLanguages languages do return false
  if let some flags := c.dispositions then
    unless ← t.meetsDispositions flags do return false
  if let some title := c.title then
    unless (← t.searchTitle title).isSome do return false
  return true

/-- The first rule that matches the track, with its position among the rules. -/
def firstMatch (t : Track) : (position : Nat) → List Rule → Except Fault (Option (Nat × Rule))
  | _, [] => .ok none
  | position, rule :: rest => do
    if ← t.meets rule.criteria then return some (position, rule)
    else t.firstMatch (position + 1) rest

/-- The rule of a set that applies to the track. -/
def findRule (t : Track) (rs : RuleSet) : Except Fault (Option Rule) := do
  return (← t.firstMatch 0 rs.rules).map Prod.snd

end Track

end AudioPlan
