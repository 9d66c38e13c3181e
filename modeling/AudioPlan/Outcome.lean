import AudioPlan.Log.Record
import AudioPlan.Plan.Synthesis
import AudioPlan.Track.Probe

/-!
# Outcomes

What is to be done with one file.  The marker of the rule set is made first.  The file is left alone
when nothing is known about it, when it carries the marker already, or when it has no audio track,
in this order; only then are the rules applied.

* `process` yields the outcome of a file;
* `Outcome.shouldApply` says whether the file is to be rewritten.
-/

namespace AudioPlan

/-- The part that records of the processing are from. -/
def processLogger : String := "trackrules.processor"

/-- How the processing of a file ended. -/
inductive Status where
  | changed
  | unchanged
  | noSourceData
  | noAudioTracks
  | alreadyProcessed
  deriving Repr, DecidableEq

/-- The name of a status. -/
def Status.name : Status → String
  | .changed => "changed"
  | .unchanged => "unchanged"
  | .noSourceData => "no_source_data"
  | .noAudioTracks => "no_audio_tracks"
  | .alreadyProcessed => "already_processed"

/-- The result of processing a file. -/
structure Outcome where
  status : Status
  plan : Plan := .empty
  /-- The marker text to write, if the file changes. -/
  marker : Option String := none
  /-- Whether the plan is only to be looked at. -/
  dryRun : Bool := false
  path : Value := .null
  deriving Repr

namespace Outcome

/-- Whether the file is to be rewritten. -/
def shouldApply (o : Outcome) : Bool :=
  o.status == .changed && !o.dryRun

/-- The report of an outcome. -/
def document (o : Outcome) : Value :=
  .map [
    ("file_path", o.path),
    ("status", .text o.status.name),
    ("should_apply", .bool o.shouldApply),
    ("dry_run", .bool o.dryRun),
    ("marker", textOrNull o.marker),
    ("plan", o.plan.document)]

end Outcome

/-- Records what a plan would do. -/
def logInstructions : List Instruction → Logged Unit
  | [] => pure ()
  | i :: rest => do
    Logged.write processLogger .info ("  " ++ i.description)
    logInstructions rest

/-- The outcome for a file with audio tracks that does not carry the marker. -/
def applyRules (p : Probe) (rs : RuleSet) (marker : String) (dryRun : Bool) :
    Logged Outcome := do
  Logged.write processLogger .info s!"{p.audio.length} audio tracks"
  let plan ← synthesize p.audio rs p.others
  if !plan.changed then
    return { status := .unchanged, plan := plan, dryRun := dryRun, path := p.path }
  if dryRun then
    Logged.write processLogger .info ("Dry run, no change will be applied: " ++ plan.summary)
    logInstructions plan.instructions
  return { status := .changed, plan := plan,
           marker := some (appendMarker (some p.marker) marker),
           dryRun := dryRun, path := p.path }

/-- The outcome for a file that something is known about. -/
def processProbe (p : Probe) (rs : RuleSet) (marker : String) (dryRun : Bool) :
    Logged Outcome := do
  if alreadyProcessed (some p.marker) marker then
    Logged.write processLogger .info "Watermark found, file already processed with these rules"
    return { status := .alreadyProcessed, dryRun := dryRun, path := p.path }
  if p.audio.isEmpty then
    Logged.write processLogger .info "No audio tracks, nothing to do"
    return { status := .noAudioTracks, dryRun := dryRun, path := p.path }
  applyRules p rs marker dryRun

/-- The outcome for a file. -/
def processAny (probe : Option Probe) (rs : RuleSet) (dryRun : Bool) : Logged Outcome := do
  let marker ← rs.marker
  match probe with
  | some p => processProbe p rs marker dryRun
  | none =>
    Logged.write processLogger .info "Probe data missing, nothing to process"
    return { status := .noSourceData, dryRun := dryRun }

/-- The outcome for a file, with every record marked with its path. -/
def process (probe : Option Probe) (rs : RuleSet) (dryRun : Bool) : Logged Outcome :=
  Logged.inFile (probe.bind fun p => p.path.looseText) do
    let outcome ← processAny probe rs dryRun
    Logged.write processLogger .debug ("Processing finished with status " ++ outcome.status.name)
    return outcome

end AudioPlan
