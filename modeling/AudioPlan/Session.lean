import AudioPlan.Outcome
import AudioPlan.Plan.Arguments

/-!
# Sessions

One file over time.  A session keeps the rules in force, the last report on the file, the tag that
holds its marker, and the last outcome.  Applying an outcome writes its marker into the report, as
a report on the rewritten file would show it, so the next run finds it there.

* `Session.process` and `Session.apply` take a step;
* `stampReport` puts a marker into a report.
-/

namespace AudioPlan

/-- The entries of a part of a report, which is added empty if it is missing. -/
def partOrEmpty (key : String) (entries : List (String × Value)) : Value :=
  (entries.lookup key).getD (.map [])

/-- The tags with a marker under a tag. -/
def stampTags (tag marker : String) : Value → Except Fault Value
  | .map tags => .ok (.map (put tag (.text marker) tags))
  | _ => .error .wrongKind

/-- The part of a report about the file as a whole, with a marker among its tags. -/
def stampFormat (tag marker : String) : Value → Except Fault Value
  | .map format => do
    let tags ← stampTags tag marker (partOrEmpty "tags" format)
    return .map (put "tags" tags format)
  | _ => .error .noSuchPart

/-- The report with a marker among the tags of the file.  What other spellings of the tag hold
stays. -/
def stampReport (tag marker : String) : Value → Except Fault Value
  | .map report => do
    let format ← stampFormat tag marker (partOrEmpty "format" report)
    return .map (put "format" format report)
  | _ => .error .noSuchPart

/-- What is known of a file between two steps. -/
structure Session where
  rules : RuleSet := { rules := [] }
  /-- The last report on the file. -/
  report : Value := .null
  markerTag : String := Probe.defaultMarkerTag
  /-- The last outcome, if the file was processed. -/
  last : Option Outcome := none
  deriving Repr

namespace Session

/-- What the report says. -/
def probe (s : Session) : Except Fault (Option Probe) :=
  (Probe.read s.report .null s.markerTag).outcome

/-- The marker text of the file, empty if nothing is known about it. -/
def marker (s : Session) : Except Fault String := do
  return ((← s.probe).map Probe.marker).getD ""

/-- The tokens in the marker text. -/
def tokens (s : Session) : Except Fault (List String) := do
  return extractTokens (← s.marker)

/-- The token at a position; negative positions count from the end. -/
def token (s : Session) (n : Int) : Except Fault String := do
  let tokens ← s.tokens
  let place := if n < 0 then n + tokens.length else n
  match (if place < 0 then none else tokens[place.toNat]?) with
  | some token => return token
  | none => throw .missingItem

/-- Processes the file with the rules in force. -/
def process (s : Session) (dryRun : Bool) : Except Fault (Outcome × Session) := do
  let outcome ← (AudioPlan.process (← s.probe) s.rules dryRun).outcome
  return (outcome, { s with last := some outcome })

/-- The marker that the last outcome asks to be written. -/
def due (s : Session) : Option String :=
  match s.last with
  | some outcome => if outcome.shouldApply then some (outcome.marker.getD "") else none
  | none => none

/-- Writes the marker of the last outcome into the report, if it is to be applied. -/
def apply (s : Session) : Except Fault Session :=
  match s.due with
  | some marker => do
    return { s with report := (← stampReport s.markerTag marker s.report) }
  | none => .ok s

end Session

end AudioPlan
