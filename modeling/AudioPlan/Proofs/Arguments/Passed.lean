import AudioPlan.Proofs.Plan.Positions

/-!
# Streams that a command passes through

A command copies the subtitles, data and attachments whose encoding is known, in the order of the
old file, and if there are none it says so (`passthrough_selected`).  Each of them is mapped from
its position among all streams of its kind to its position among those that are kept.

* `passedStreams_positions` is about the order of the positions;
* `passthrough_selected` follows the selection from the streams to the arguments.
-/

namespace AudioPlan

/-! ## Positions -/

/-- Within a kind the positions in the old file go up, and those in the new one count from zero
without a gap. -/
theorem passedStreams_positions (others : List Track) (kind : StreamKind) :
    let passed := (passedStreams others).filter (·.kind == kind)
    (passed.map Passthrough.input).Pairwise (· < ·) ∧
      passed.map Passthrough.output = (List.range passed.length).map Int.ofNat := by
  intro passed
  have hpassed : (passthroughFrom [] [] others).outcome = .ok (passedStreams others) :=
    planPassthrough_eq others
  refine ⟨?_, ?_⟩
  · cases hkind : kind.passes with
    | true =>
      have hinputs := passthroughFrom_inputs hkind hpassed
      rw [show passed.map Passthrough.input = _ from hinputs, List.pairwise_map]
      exact (pairwise_lt_identifiedFrom _ _).imp Int.ofNat_lt.2
    | false =>
      have hnone : passed = [] := by
        rw [List.filter_eq_nil_iff]
        intro p hp heq
        have hpasses := passthroughFrom_passes hpassed p hp
        rw [beq_iff_eq.1 heq, hkind] at hpasses
        cases hpasses
      rw [hnone]
      exact .nil
  · rw [List.range_eq_range']
    exact passthroughFrom_outputs kind hpassed

/-! ## Plans -/

/-- Of any streams those of the kinds that are passed through and of a known encoding are selected,
in order, each with the number of streams of its kind in front of it and the number of those that
are kept; a plan that changes something passes just these through, and its command has four
arguments for each of them, or says that there are none. -/
theorem passthrough_selected (others : List Track) :
    (planPassthrough others).outcome = .ok (passedStreams others) ∧
      (∀ kind : StreamKind,
        let passed := (passedStreams others).filter (·.kind == kind)
        (passed.map Passthrough.input).Pairwise (· < ·) ∧
          passed.map Passthrough.output = (List.range passed.length).map Int.ofNat) ∧
      ∀ (tracks : List Track) (rs : RuleSet) (plan : Plan),
        (synthesize tracks rs others).outcome = .ok plan → plan.changed = true →
          plan.passthrough = passedStreams others ∧
          (plan.suppressOther = true ↔ passedStreams others = []) ∧
          ∀ marker, ∃ arguments, plan.arguments marker = .ok arguments ∧
            arguments.other = if passedStreams others = [] then ["-sn"]
              else (passedStreams others).flatMap Passthrough.copied := by
  refine ⟨planPassthrough_eq others, passedStreams_positions others, ?_⟩
  intro tracks rs plan hplan hchanged
  obtain ⟨made, passthrough, -, hpassthrough, rfl⟩ := synthesize_changed hplan hchanged
  have hpasses := passthroughFrom_passes hpassthrough
  rw [planPassthrough_eq, Except.ok.injEq] at hpassthrough
  subst hpassthrough
  refine ⟨rfl, List.isEmpty_iff, fun marker => ?_⟩
  refine ⟨_, Plan.arguments_of_changed rfl (passthroughTokens_eq hpasses) marker, ?_⟩
  simp only [List.isEmpty_iff]
  split
  · rename_i hnone
    rw [hnone]
    rfl
  · rfl

/-- Subtitles, attachments and data, of which some have an encoding that is not known. -/
def besideTracks : List Track :=
  [{ kind := .subtitle }, { kind := .subtitle, codec := .known (some "subrip") },
    { kind := .other "other", codec := .known (some "eia_608") },
    { kind := .attachment, codec := .known (some "ttf") },
    { kind := .data, codec := .known (some "none") },
    { kind := .subtitle, codec := .known (some "ass") }]

/-- A subtitle that is left out moves the positions of the others in the old file on, but not those
in the new one. -/
theorem passthrough_selected_beside :
    ∃ plan arguments, (synthesize mixedTracks mixedRules besideTracks).outcome = .ok plan ∧
      plan.changed = true ∧
      plan.passthrough = [⟨.subtitle, 1, 0⟩, ⟨.attachment, 0, 0⟩, ⟨.subtitle, 2, 1⟩] ∧
      plan.suppressOther = false ∧ plan.arguments none = .ok arguments ∧
      arguments.other = ["-map", "0:s:1", "-c:s:0", "copy", "-map", "0:t:0", "-c:t:0", "copy",
        "-map", "0:s:2", "-c:s:1", "copy"] := by
  have hseen : (synthesize mixedTracks mixedRules besideTracks).outcome.toOption.map
      Plan.changed = some true := by decide +kernel
  have hpassed : passedStreams besideTracks =
      [⟨.subtitle, 1, 0⟩, ⟨.attachment, 0, 0⟩, ⟨.subtitle, 2, 1⟩] := by decide +kernel
  obtain ⟨plan, hplan, hchanged⟩ := exists_eq_ok_of_map hseen
  obtain ⟨-, -, hall⟩ := passthrough_selected besideTracks
  obtain ⟨hpassthrough, hsuppress, harguments⟩ := hall mixedTracks mixedRules plan hplan hchanged
  obtain ⟨arguments, hok, hother⟩ := harguments none
  rw [hpassed] at hpassthrough hsuppress hother
  refine ⟨plan, arguments, hplan, hchanged, hpassthrough, ?_, hok, hother⟩
  rw [← Bool.not_eq_true, hsuppress]
  exact List.cons_ne_nil _ _

end AudioPlan
