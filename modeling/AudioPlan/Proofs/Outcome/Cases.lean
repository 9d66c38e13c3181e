import AudioPlan.Outcome
import AudioPlan.Proofs.Marker.Writable

/-!
# The outcomes of a file

Everything that the processing of a file can come to (`process_eq_ok_iff`), once the rule set has
its marker.  The four cases of `Processed` stand in the order in which they are tried, each with
what must have failed before it.
-/

namespace AudioPlan

/-- What the processing of a file with a probe can come to. -/
inductive Processed (p : Probe) (rs : RuleSet) (dryRun : Bool) : Outcome → Prop
  | marked (hmarked : alreadyProcessed (some p.marker) rs.watermark = true) :
      Processed p rs dryRun { status := .alreadyProcessed, dryRun := dryRun, path := p.path }
  | noAudioTracks (hfresh : alreadyProcessed (some p.marker) rs.watermark = false)
      (haudio : p.audio = []) :
      Processed p rs dryRun { status := .noAudioTracks, dryRun := dryRun, path := p.path }
  | unchanged (hfresh : alreadyProcessed (some p.marker) rs.watermark = false)
      (haudio : p.audio ≠ []) {plan : Plan}
      (hplan : (synthesize p.audio rs p.others).outcome = .ok plan) (hsame : plan.changed = false) :
      Processed p rs dryRun
        { status := .unchanged, plan := plan, dryRun := dryRun, path := p.path }
  | changed (hfresh : alreadyProcessed (some p.marker) rs.watermark = false)
      (haudio : p.audio ≠ []) {plan : Plan}
      (hplan : (synthesize p.audio rs p.others).outcome = .ok plan) (hnew : plan.changed = true) :
      Processed p rs dryRun
        { status := .changed, plan := plan,
          marker := some (appendMarker (some p.marker) rs.watermark), dryRun := dryRun,
          path := p.path }

theorem outcome_logInstructions (instructions : List Instruction) :
    (logInstructions instructions).outcome = .ok () := by
  induction instructions with
  | nil => rfl
  | cons i rest ih =>
    rw [logInstructions, Logged.outcome_write_bind]
    exact ih

/-- The outcome that a plan leads to. -/
def Plan.toOutcome (plan : Plan) (p : Probe) (rs : RuleSet) (dryRun : Bool) : Outcome :=
  if plan.changed then
    { status := .changed, plan := plan,
      marker := some (appendMarker (some p.marker) rs.watermark), dryRun := dryRun,
      path := p.path }
  else { status := .unchanged, plan := plan, dryRun := dryRun, path := p.path }

theorem outcome_applyRules_eq_ok {p : Probe} {rs : RuleSet} {dryRun : Bool} {o : Outcome} :
    (applyRules p rs rs.watermark dryRun).outcome = .ok o ↔
      ∃ plan, (synthesize p.audio rs p.others).outcome = .ok plan ∧
        plan.toOutcome p rs dryRun = o := by
  rw [applyRules, Logged.outcome_write_bind, Logged.outcome_bind_eq_ok]
  refine exists_congr fun plan => and_congr_right fun _ => ?_
  unfold Plan.toOutcome
  cases plan.changed with
  | false =>
    simp only [Bool.not_false, Bool.false_eq_true, ↓reduceIte, Logged.outcome_pure,
      Except.ok.injEq]
  | true =>
    cases dryRun with
    | false =>
      simp only [Bool.not_true, Bool.false_eq_true, ↓reduceIte, Logged.outcome_pure,
        Except.ok.injEq]
    | true =>
      simp only [Bool.not_true, Bool.false_eq_true, ↓reduceIte, Logged.outcome_write_bind,
        Logged.outcome_bind_eq_ok, outcome_logInstructions, Logged.outcome_pure, Except.ok.injEq,
        true_and, exists_const]

theorem outcome_process (p : Probe) (rs : RuleSet) (dryRun : Bool) :
    (process (some p) rs dryRun).outcome =
      rs.marker >>= fun marker => (processProbe p rs marker dryRun).outcome := by
  rw [process, Logged.outcome_inFile, Logged.outcome_bind, processAny, Logged.outcome_bind,
    Logged.outcome_liftM]
  cases rs.marker with
  | error fault => rfl
  | ok marker =>
    show ((processProbe p rs marker dryRun).outcome >>= fun o => .ok o) = _
    cases hprobe : (processProbe p rs marker dryRun).outcome with
    | ok o => exact hprobe.symm
    | error fault => exact hprobe.symm

/-- Where a rule set has its marker, a file is processed with it. -/
theorem outcome_process_of_writable {rs : RuleSet} (hrs : rs.Writable) (p : Probe)
    (dryRun : Bool) :
    (process (some p) rs dryRun).outcome = (processProbe p rs rs.watermark dryRun).outcome := by
  rw [outcome_process, marker_of_writable hrs]
  rfl

theorem outcome_processProbe_eq_ok {p : Probe} {rs : RuleSet} {dryRun : Bool} {o : Outcome} :
    (processProbe p rs rs.watermark dryRun).outcome = .ok o ↔ Processed p rs dryRun o := by
  rw [processProbe]
  constructor
  · intro h
    by_cases hmarked : alreadyProcessed (some p.marker) rs.watermark = true
    · rw [if_pos hmarked] at h
      cases h
      exact .marked hmarked
    · rw [if_neg hmarked] at h
      rw [Bool.not_eq_true] at hmarked
      by_cases haudio : p.audio = []
      · rw [if_pos (List.isEmpty_iff.2 haudio)] at h
        cases h
        exact .noAudioTracks hmarked haudio
      · rw [if_neg (mt List.isEmpty_iff.1 haudio)] at h
        obtain ⟨plan, hplan, rfl⟩ := outcome_applyRules_eq_ok.1 h
        unfold Plan.toOutcome
        split
        · rename_i hnew
          exact .changed hmarked haudio hplan hnew
        · rename_i hsame
          exact .unchanged hmarked haudio hplan (eq_false_of_ne_true hsame)
  · intro h
    cases h with
    | marked hmarked =>
      rw [if_pos hmarked]
      rfl
    | noAudioTracks hfresh haudio =>
      rw [if_neg (ne_true_of_eq_false hfresh), if_pos (List.isEmpty_iff.2 haudio)]
      rfl
    | unchanged hfresh haudio hplan hsame =>
      rw [if_neg (ne_true_of_eq_false hfresh), if_neg (mt List.isEmpty_iff.1 haudio)]
      refine outcome_applyRules_eq_ok.2 ⟨_, hplan, ?_⟩
      rw [Plan.toOutcome, hsame, if_neg Bool.false_ne_true]
    | changed hfresh haudio hplan hnew =>
      rw [if_neg (ne_true_of_eq_false hfresh), if_neg (mt List.isEmpty_iff.1 haudio)]
      refine outcome_applyRules_eq_ok.2 ⟨_, hplan, ?_⟩
      rw [Plan.toOutcome, hnew, if_pos rfl]

/-- Nothing else can come of a file with a probe. -/
theorem process_eq_ok_iff {p : Probe} {rs : RuleSet} {dryRun : Bool} {o : Outcome} :
    (process (some p) rs dryRun).outcome = .ok o ↔ rs.Writable ∧ Processed p rs dryRun o := by
  rw [outcome_process, bind_eq_ok]
  simp only [marker_eq_ok_iff]
  constructor
  · rintro ⟨marker, ⟨hrs, rfl⟩, h⟩
    exact ⟨hrs, outcome_processProbe_eq_ok.1 h⟩
  · rintro ⟨hrs, h⟩
    exact ⟨_, ⟨hrs, rfl⟩, outcome_processProbe_eq_ok.2 h⟩

/-- Without a probe there is only one outcome. -/
theorem process_none_eq_ok_iff {rs : RuleSet} {dryRun : Bool} {o : Outcome} :
    (process none rs dryRun).outcome = .ok o ↔
      rs.Writable ∧ o = { status := .noSourceData, dryRun := dryRun } := by
  rw [process, Logged.outcome_inFile, Logged.outcome_bind, processAny, Logged.outcome_bind,
    Logged.outcome_liftM]
  by_cases hrs : rs.Writable
  · rw [marker_of_writable hrs, and_iff_right hrs]
    constructor
    · rintro ⟨⟩
      rfl
    · rintro rfl
      rfl
  · rw [marker_of_not_writable hrs]
    exact iff_of_false nofun fun h => hrs h.1

/-- A file that is to be changed has no marker yet; it has the plan of a synthesis, and the marker
is added to its text. -/
theorem Processed.of_changed {p : Probe} {rs : RuleSet} {dryRun : Bool} {o : Outcome}
    (h : Processed p rs dryRun o) (hstatus : o.status = .changed) :
    alreadyProcessed (some p.marker) rs.watermark = false ∧
      (synthesize p.audio rs p.others).outcome = .ok o.plan ∧ o.plan.changed = true ∧
        o.marker = some (p.marker ++ rs.watermark) := by
  cases h with
  | marked => cases hstatus
  | noAudioTracks => cases hstatus
  | unchanged => cases hstatus
  | changed hfresh haudio hplan hnew => exact ⟨hfresh, hplan, hnew, rfl⟩

/-- A file counts as already processed exactly when its text has the marker that there is. -/
theorem exists_process_alreadyProcessed_iff {p : Probe} {rs : RuleSet} {dryRun : Bool} :
    (∃ o, (process (some p) rs dryRun).outcome = .ok o ∧ o.status = .alreadyProcessed) ↔
      rs.Writable ∧ alreadyProcessed (some p.marker) rs.watermark = true := by
  constructor
  · rintro ⟨o, ho, hstatus⟩
    obtain ⟨hrs, hprocessed⟩ := process_eq_ok_iff.1 ho
    refine ⟨hrs, ?_⟩
    cases hprocessed with
    | marked hmarked => exact hmarked
    | noAudioTracks => cases hstatus
    | unchanged => cases hstatus
    | changed => cases hstatus
  · rintro ⟨hrs, hmarked⟩
    exact ⟨_, process_eq_ok_iff.2 ⟨hrs, .marked hmarked⟩, rfl⟩

/-- A file whose report is read and processed, given by something that can be seen of the
outcome. -/
theorem exists_read_process {α : Type} {report path : Value} {tag : String} {rs : RuleSet}
    {dryRun : Bool} {f : Outcome → α} {a : α}
    (h : ((Probe.read report path tag).outcome.toOption.join.bind fun p =>
      (process (some p) rs dryRun).outcome.toOption.map f) = some a) :
    ∃ p o, (Probe.read report path tag).outcome = .ok (some p) ∧
      (process (some p) rs dryRun).outcome = .ok o ∧ f o = a := by
  obtain ⟨p, hp, h⟩ := Option.bind_eq_some_iff.1 h
  obtain ⟨o, ho, hf⟩ := exists_eq_ok_of_map h
  rw [Option.join_eq_some_iff] at hp
  exact ⟨p, o, eq_ok_of_toOption hp, ho, hf⟩

end AudioPlan
