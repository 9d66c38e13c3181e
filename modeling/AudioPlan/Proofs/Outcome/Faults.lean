import AudioPlan.Proofs.Outcome.Cases
import AudioPlan.Proofs.Plan.Faults

/-!
# Files that cannot be processed

From a report to the outcome of its file, all goes well except for the values that `ReportFault` and
`TrackFault` list, and for rules that have no marker.  Numbers that are infinite and parts of the
wrong kind make the reading fault; what is passed on unread, a codec or a layout that is no text,
counts that are too long to be written, and rates beyond the range of floating-point numbers make
the processing fault, and only where a rule needs them.
-/

namespace AudioPlan

theorem applyRules_faults_iff {p : Probe} {rs : RuleSet} {marker : String} {dryRun : Bool} :
    Faults (applyRules p rs marker dryRun).outcome ↔
      Faults (synthesize p.audio rs p.others).outcome := by
  rw [applyRules, Logged.outcome_write_bind, Logged.outcome_bind]
  refine faults_bind_iff_left fun plan => ?_
  dsimp only
  split
  · exact not_faults_ok _
  · split
    · rw [Logged.outcome_write_bind, Logged.outcome_bind, outcome_logInstructions]
      exact not_faults_ok _
    · exact not_faults_ok _

/-- With rules that have a marker, processing faults where a plan is made for the file and something
about one of its tracks cannot be decided. -/
theorem process_faults_iff {p : Probe} (hp : ∀ t ∈ p.tracks, t.Reported) {rs : RuleSet}
    (hrs : ∀ r ∈ rs.rules, r.Normal) (hwritable : rs.Writable) {dryRun : Bool} :
    Faults (process (some p) rs dryRun).outcome ↔
      alreadyProcessed (some p.marker) rs.watermark = false ∧ ∃ t ∈ p.audio, TrackFault rs t := by
  have haudio : ∀ t ∈ p.audio, t.Reported := fun t ht => hp t (List.mem_filter.1 ht).1
  have hplan : Faults (synthesize p.audio rs p.others).outcome ↔ ∃ t ∈ p.audio, TrackFault rs t :=
    synthesize_faults_iff hrs hwritable haudio
  rw [outcome_process_of_writable hwritable, processProbe]
  split
  · rename_i hmarked
    rw [Logged.outcome_write_bind, hmarked]
    exact iff_of_false (not_faults_ok _) fun h => Bool.false_ne_true h.1.symm
  · rename_i hfresh
    rw [and_iff_right (eq_false_of_ne_true hfresh)]
    split
    · rename_i hempty
      rw [Logged.outcome_write_bind, List.isEmpty_iff.1 hempty]
      exact iff_of_false (not_faults_ok _) (by simp)
    · exact applyRules_faults_iff.trans hplan

/-- Without a marker nothing is processed. -/
theorem process_faults_of_not_writable {rs : RuleSet} (h : ¬ rs.Writable) (probe : Option Probe)
    (dryRun : Bool) : Faults (process probe rs dryRun).outcome := by
  rw [process, Logged.outcome_inFile, Logged.outcome_bind, processAny, Logged.outcome_bind,
    Logged.outcome_liftM, marker_of_not_writable h]
  exact faults_error _

/-- Reading a report and processing what was read fault for the reasons that are listed, and for no
others: otherwise a report gives a probe or counts as none, and every probe gives an outcome. -/
theorem processing_faults {document : Value} {rs : RuleSet} (hvalid : validate document = .ok rs)
    (report path : Value) (markerTag : String) (dryRun : Bool) :
    (Faults (Probe.read report path markerTag).outcome ↔
      report.IsObject ∧ (∃ streams, report.part "streams" = .list streams) ∧
        ReportFault report) ∧
    ∀ probe, (Probe.read report path markerTag).outcome = .ok probe →
      (Faults (process probe rs dryRun).outcome ↔
        ¬ rs.Writable ∨
          ∃ p, probe = some p ∧ alreadyProcessed (some p.marker) rs.watermark = false ∧
            ∃ t ∈ p.audio, TrackFault rs t) := by
  refine ⟨Probe.read_faults_iff, fun probe hread => ?_⟩
  by_cases hwritable : rs.Writable
  · rw [or_iff_right (not_not.2 hwritable)]
    cases probe with
    | none =>
      obtain ⟨o, ho⟩ : ∃ o, (process none rs dryRun).outcome = .ok o :=
        ⟨_, process_none_eq_ok_iff.2 ⟨hwritable, rfl⟩⟩
      rw [ho]
      exact iff_of_false (not_faults_ok _) nofun
    | some p =>
      have hrs : ∀ r ∈ rs.rules, r.Normal := fun r hr => validate_normal hvalid hr
      rw [process_faults_iff (Probe.read_reported hread) hrs hwritable]
      simp
  · exact iff_of_true (process_faults_of_not_writable hwritable probe dryRun) (.inl hwritable)

/-- A report on one audio stream with a codec and a bit rate. -/
def streamReport (codec bitRate : Value) : Value :=
  .map [("streams", .list [.map [
    ("index", .int 0), ("codec_type", .text "audio"), ("codec_name", codec),
    ("bit_rate", bitRate)]])]

/-- An infinite bit rate makes the reading fault, a codec that is a list the processing with a rule
that asks for codecs. -/
theorem processing_faults_infinite :
    let rs : RuleSet := ⟨[commentaryRule]⟩
    validate commentaryDocument = .ok rs ∧
      Faults (Probe.read (streamReport (.text "aac") (.float (.infinity false))) .null
        "COPYRIGHT").outcome ∧
      ∃ p, (Probe.read (streamReport (.list [.text "ac3"]) .null) .null "COPYRIGHT").outcome =
        .ok (some p) ∧ Faults (process (some p) rs false).outcome := by
  intro rs
  have hvalid : validate commentaryDocument = .ok rs := by decide +kernel
  refine ⟨hvalid, ?_, ?_⟩
  · refine (processing_faults hvalid _ .null "COPYRIGHT" false).1.2 ⟨⟨_, rfl⟩, ⟨_, rfl⟩, ?_⟩
    exact .stream List.mem_cons_self ⟨_, rfl⟩ (.bitRate (by decide) ⟨false, rfl⟩)
  · let t : Track := { kind := .audio, codec := .foreign (.list [.text "ac3"]) }
    let p : Probe := { tracks := [t] }
    have hread : (Probe.read (streamReport (.list [.text "ac3"]) .null) .null
        "COPYRIGHT").outcome = .ok (some p) := rfl
    have hprocess := (processing_faults hvalid _ .null "COPYRIGHT" false).2 (some p) hread
    have hrules : rs.rules = [] ++ commentaryRule :: [] := rfl
    have ht : t ∈ p.audio := List.mem_filter.2 ⟨List.mem_cons_self, rfl⟩
    exact ⟨p, hread, hprocess.2 (.inr ⟨p, rfl, by decide +kernel, t, ht,
      .selector ⟨_, rfl⟩ hrules nofun nofun⟩)⟩

end AudioPlan
