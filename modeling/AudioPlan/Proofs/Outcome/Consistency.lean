import AudioPlan.Proofs.Marker.History
import AudioPlan.Proofs.Marker.Rewriting
import AudioPlan.Proofs.Plan.Composition
import AudioPlan.Proofs.Track.Matching

/-!
# Outcomes that hold together

The status of an outcome, its plan, its marker and the command for the plan all say the same
(`process_consistent`): either the file is to be rewritten, or nothing is done to it.  A dry run
comes to the same as a real one.

* `Decided.unmatched_iff` and `synthesize_changed_iff` say when a plan changes something, in terms
  of the rules that match;
* `synthesize_arguments` says that its command has something in it exactly then;
* `Processed.changed_iff` says when a file is to be changed.
-/

namespace AudioPlan

/-! ## Tracks that a rule matches -/

/-- Some rule of a set matches the track. -/
def Track.MeetsSome (t : Track) (rs : RuleSet) : Prop :=
  ∃ rule ∈ rs.rules, t.meets rule.criteria = .ok true

/-- What matching does for the rules behind the one that is found makes no difference. -/
theorem Track.isSome_findRule_iff {t : Track} {rs : RuleSet} {found : Option Rule}
    (h : t.findRule rs = .ok found) : found.isSome = true ↔ t.MeetsSome rs := by
  rcases Track.findRule_eq_ok h with ⟨rfl, hnone⟩ | ⟨rule, hmem, rfl, hmeets⟩
  · refine iff_of_false Bool.false_ne_true ?_
    rintro ⟨rule, hmem, hmeets⟩
    rw [hnone rule hmem] at hmeets
    cases hmeets
  · exact iff_of_true rfl ⟨rule, hmem, hmeets⟩

section Tracks

variable {rs : RuleSet} {input output : Nat}

theorem Decided.unmatched_iff {t : Track} {made : TrackPlan} (h : Decided rs input output t made) :
    made.decision.action = .unmatchedCopy ↔ ¬ t.MeetsSome rs := by
  cases h with
  | unmatched hrule =>
    rw [← Track.isSome_findRule_iff hrule]
    simp
  | dropped hrule =>
    rw [← Track.isSome_findRule_iff hrule]
    simp
  | applied hrule =>
    rw [← Track.isSome_findRule_iff hrule]
    simp

theorem DecidedAll.all_unmatched_iff {tracks : List Track} {made : List TrackPlan}
    (h : DecidedAll rs input output tracks made) :
    (∀ m ∈ made, m.decision.action = .unmatchedCopy) ↔ ∀ t ∈ tracks, ¬ t.MeetsSome rs := by
  induction h with
  | nil => simp
  | cons first _ ih => rw [List.forall_mem_cons, List.forall_mem_cons, first.unmatched_iff, ih]

end Tracks

/-! ## Plans -/

section Plans

variable {tracks others : List Track} {rs : RuleSet} {plan : Plan}

/-- A plan changes something exactly when some rule matches some track. -/
theorem synthesize_changed_iff (h : (synthesize tracks rs others).outcome = .ok plan) :
    plan.changed = true ↔ ∃ t ∈ tracks, t.MeetsSome rs := by
  obtain ⟨made, passthrough, hmade, -, -, rfl⟩ := synthesize_eq_ok_iff.1 h
  have hall : made.all (·.decision.action == .unmatchedCopy) = true ↔
      ∀ t ∈ tracks, ¬ t.MeetsSome rs := by
    rw [← hmade.all_unmatched_iff, List.all_eq_true]
    simp only [beq_iff_eq]
  rw [assembledPlan_changed, Bool.not_eq_true', ← Bool.not_eq_true, hall]
  simp only [not_forall, not_not, exists_prop]

theorem synthesize_unchanged (h : (synthesize tracks rs others).outcome = .ok plan)
    (hsame : plan.changed = false) :
    plan.instructions = [] ∧ plan.passthrough = [] ∧ plan.watermark = "" := by
  obtain ⟨made, passthrough, -, -, -, rfl⟩ := synthesize_eq_ok_iff.1 h
  unfold assembledPlan at hsame ⊢
  split
  · exact ⟨rfl, rfl, rfl⟩
  · rename_i hall
    rw [if_neg hall] at hsame
    cases hsame

theorem Plan.arguments_of_unchanged (hsame : plan.changed = false) (marker : Option String) :
    plan.arguments marker = .ok {} := by
  rw [Plan.arguments, hsame]
  rfl

/-- The command for a plan that changes something can be written, and there is something in it: the
video is always copied. -/
theorem synthesize_arguments (h : (synthesize tracks rs others).outcome = .ok plan)
    (hchanged : plan.changed = true) (marker : Option String) :
    ∃ arguments, plan.arguments marker = .ok arguments ∧ arguments.isEmpty = false := by
  obtain ⟨made, passthrough, -, hpassthrough, rfl⟩ := synthesize_changed h hchanged
  obtain ⟨other, hother⟩ := passthroughTokens_eq_ok (passthroughFrom_passes hpassthrough)
  exact ⟨_, Plan.arguments_of_changed rfl hother marker, rfl⟩

end Plans

/-! ## Outcomes -/

/-- A file is due if its text does not carry the marker yet and some rule matches one of its audio
tracks. -/
def Probe.Due (p : Probe) (rs : RuleSet) : Prop :=
  ¬ rs.watermark.toList <:+: p.marker.toList ∧ ∃ t ∈ p.audio, t.MeetsSome rs

/-- The outcome has all that a file is rewritten with. -/
structure Outcome.Rewrites (o : Outcome) (p : Probe) (rs : RuleSet) : Prop where
  changed : o.plan.changed = true
  marker : o.marker = some (p.marker ++ rs.watermark)
  arguments : ∃ arguments, o.plan.arguments o.marker = .ok arguments ∧ arguments.isEmpty = false

/-- The outcome has nothing that a file could be rewritten with. -/
structure Outcome.LeavesAlone (o : Outcome) : Prop where
  changed : o.plan.changed = false
  marker : o.marker = none
  instructions : o.plan.instructions = []
  passthrough : o.plan.passthrough = []
  watermark : o.plan.watermark = ""
  arguments : ∀ marker, ∃ arguments,
    o.plan.arguments marker = .ok arguments ∧ arguments.isEmpty = true

theorem Outcome.leavesAlone_of_unchanged {o : Outcome} (hsame : o.plan.changed = false)
    (hmarker : o.marker = none) (hparts : o.plan.instructions = [] ∧ o.plan.passthrough = [] ∧
      o.plan.watermark = "") : o.LeavesAlone where
  changed := hsame
  marker := hmarker
  instructions := hparts.1
  passthrough := hparts.2.1
  watermark := hparts.2.2
  arguments marker := ⟨_, Plan.arguments_of_unchanged hsame marker, rfl⟩

/-- A text carries the marker of a rule set exactly when the marker is a stretch of it. -/
theorem alreadyProcessed_iff_infix (text : String) (rs : RuleSet) :
    alreadyProcessed (some text) rs.watermark = true ↔
      rs.watermark.toList <:+: text.toList :=
  (alreadyProcessed_iff rs.isToken_token text).trans (mem_extractTokens_iff rs.isToken_token)

namespace Processed

variable {p : Probe} {rs : RuleSet} {dryRun : Bool} {o : Outcome}

/-- A dry run differs from a real one in being called so only. -/
theorem withDryRun (h : Processed p rs dryRun o) (other : Bool) :
    Processed p rs other { o with dryRun := other } := by
  cases h with
  | marked hmarked => exact .marked hmarked
  | noAudioTracks hfresh haudio => exact .noAudioTracks hfresh haudio
  | unchanged hfresh haudio hplan hsame => exact .unchanged hfresh haudio hplan hsame
  | changed hfresh haudio hplan hnew => exact .changed hfresh haudio hplan hnew

theorem dryRun_eq (h : Processed p rs dryRun o) : o.dryRun = dryRun := by
  cases h with
  | marked => rfl
  | noAudioTracks => rfl
  | unchanged => rfl
  | changed => rfl

/-- A file is to be changed exactly when it is due. -/
theorem changed_iff (h : Processed p rs dryRun o) : o.status = .changed ↔ p.Due rs := by
  have hmarker := alreadyProcessed_iff_infix p.marker rs
  rw [Probe.Due, ← hmarker, Bool.not_eq_true]
  cases h with
  | marked hmarked => simp [hmarked]
  | noAudioTracks hfresh haudio => simp [haudio]
  | unchanged hfresh haudio hplan hsame => simp [← synthesize_changed_iff hplan, hsame]
  | changed hfresh haudio hplan hnew => simp [← synthesize_changed_iff hplan, hfresh, hnew]

theorem rewrites (h : Processed p rs dryRun o) (hstatus : o.status = .changed) :
    o.Rewrites p rs := by
  obtain ⟨-, hplan, hchanged, hmarker⟩ := h.of_changed hstatus
  exact ⟨hchanged, hmarker, synthesize_arguments hplan hchanged o.marker⟩

theorem leavesAlone (h : Processed p rs dryRun o) (hstatus : o.status ≠ .changed) :
    o.LeavesAlone := by
  cases h with
  | marked => exact Outcome.leavesAlone_of_unchanged rfl rfl ⟨rfl, rfl, rfl⟩
  | noAudioTracks => exact Outcome.leavesAlone_of_unchanged rfl rfl ⟨rfl, rfl, rfl⟩
  | unchanged _ _ hplan hsame =>
    exact Outcome.leavesAlone_of_unchanged hsame rfl (synthesize_unchanged hplan hsame)
  | changed => exact absurd rfl hstatus

end Processed

theorem Outcome.shouldApply_iff (o : Outcome) :
    o.shouldApply = true ↔ o.status = .changed ∧ o.dryRun = false := by
  rw [shouldApply, Bool.and_eq_true, beq_iff_eq, Bool.not_eq_true']

/-- The outcome of a file, known or not, holds together.  It is to be changed exactly when it is
known and due; then the outcome has all that it is rewritten with, and otherwise nothing.  It is
rewritten unless the run is a dry one, and being a dry run makes no difference to anything else. -/
theorem process_consistent {probe : Option Probe} {rs : RuleSet} {dryRun : Bool} {o : Outcome}
    (h : (process probe rs dryRun).outcome = .ok o) :
    (o.status = .changed ↔ ∃ p, probe = some p ∧ p.Due rs) ∧
      (∀ p, probe = some p → o.status = .changed → o.Rewrites p rs) ∧
      (o.status ≠ .changed → o.LeavesAlone) ∧
      (o.shouldApply = true ↔ o.status = .changed ∧ dryRun = false) ∧
      ∀ other, (process probe rs other).outcome = .ok { o with dryRun := other } := by
  rw [o.shouldApply_iff]
  cases probe with
  | none =>
    obtain ⟨hrs, rfl⟩ := process_none_eq_ok_iff.1 h
    exact ⟨by simp, by simp, fun _ => Outcome.leavesAlone_of_unchanged rfl rfl ⟨rfl, rfl, rfl⟩,
      by simp, fun other => process_none_eq_ok_iff.2 ⟨hrs, rfl⟩⟩
  | some p =>
    obtain ⟨hrs, hprocessed⟩ := process_eq_ok_iff.1 h
    refine ⟨?_, ?_, hprocessed.leavesAlone, ?_, ?_⟩
    · rw [hprocessed.changed_iff]
      simp
    · rintro _ ⟨rfl⟩ hstatus
      exact hprocessed.rewrites hstatus
    · rw [hprocessed.dryRun_eq]
    · intro other
      exact process_eq_ok_iff.2 ⟨hrs, hprocessed.withDryRun other⟩

/-- A file that is due: the real run rewrites it, and the dry run shows the same without doing
so. -/
theorem process_consistent_encoding :
    ∃ o, encodingVisit.outcome "(c) 2024 " = .ok o ∧ o.shouldApply = true ∧
      (encodingVisit.probeWith "(c) 2024 ").Due encodingVisit.rules ∧
      o.Rewrites (encodingVisit.probeWith "(c) 2024 ") encodingVisit.rules ∧
      (process (some (encodingVisit.probeWith "(c) 2024 ")) encodingVisit.rules true).outcome =
        .ok { o with dryRun := true } ∧
      ({ o with dryRun := true } : Outcome).shouldApply = false := by
  obtain ⟨o, ho, happly⟩ := encodingVisit_applies
  obtain ⟨hdue, hrewrites, -, hshould, hother⟩ := process_consistent ho
  have hstatus := (hshould.1 happly).1
  obtain ⟨_, ⟨rfl⟩, hfile⟩ := hdue.1 hstatus
  refine ⟨o, ho, happly, hfile, hrewrites _ rfl hstatus, hother true, ?_⟩
  rw [Outcome.shouldApply, hstatus]
  rfl

end AudioPlan
