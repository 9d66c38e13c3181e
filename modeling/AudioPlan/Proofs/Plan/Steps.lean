import AudioPlan.Plan.Synthesis
import AudioPlan.Proofs.Log.Success
import AudioPlan.Proofs.Marker.Writable
import AudioPlan.Proofs.Plan.Passthrough

/-!
# The steps of a synthesis

What a synthesis that succeeds has done, as relations that follow its recursion, so that a property
of plans is proved by going through the cases.

* `Decided` lists the three ways in which one track is dealt with, and `decide_eq_ok_iff` says that
  there are no others;
* `DecidedAll` threads the positions through the tracks, with `decideAll_eq_ok_iff`;
* `MadeAll` does the same for the operations of one rule, with `operationOutputs_eq_ok_iff`;
* `synthesize_eq_ok_iff` says that the plan is put together from these in one of two ways, of which
  the one that changes something needs a marker, and `synthesize_eq_ok` takes it apart.
-/

namespace AudioPlan

/-! ## The operations of a rule -/

/-- The output tracks that operations make, each at the position behind the one before. -/
inductive MadeAll (t : Track) (rule : Rule) (input : Nat) :
    (output : Nat) → List Operation → List Output → Prop where
  | nil (output : Nat) : MadeAll t rule input output [] []
  | cons {output : Nat} {operation : Operation} {operations : List Operation} {made : Output}
      {others : List Output}
      (first : operationOutput t rule operation input output = .ok made)
      (rest : MadeAll t rule input (output + 1) operations others) :
      MadeAll t rule input output (operation :: operations) (made :: others)

theorem operationOutputs_eq_ok_iff {t : Track} {rule : Rule} {input output : Nat}
    {operations : List Operation} {made : List Output} :
    (operationOutputs t rule input output operations).outcome = .ok made ↔
      MadeAll t rule input output operations made := by
  induction operations generalizing output made with
  | nil =>
    rw [operationOutputs, Logged.outcome_pure]
    constructor
    · rintro ⟨rfl⟩
      exact .nil output
    · rintro ⟨⟩
      rfl
  | cons operation operations ih =>
    simp only [operationOutputs, Logged.outcome_bind_eq_ok, Logged.outcome_liftM,
      Logged.outcome_write_bind, Logged.outcome_pure, ih]
    constructor
    · rintro ⟨first, hfirst, others, hothers, ⟨rfl⟩⟩
      exact .cons hfirst hothers
    · rintro ⟨⟩
      exact ⟨_, ‹_›, _, ‹_›, rfl⟩

/-- Every operation makes one output track. -/
theorem MadeAll.length_eq {t : Track} {rule : Rule} {input output : Nat}
    {operations : List Operation} {made : List Output}
    (h : MadeAll t rule input output operations made) : made.length = operations.length := by
  induction h with
  | nil => rfl
  | cons _ _ ih => rw [List.length_cons, List.length_cons, ih]

/-! ## One track -/

/-- The ways in which a track is dealt with: no rule matches, the rule that matches drops the track,
or its operations make the output tracks. -/
inductive Decided (rs : RuleSet) (input output : Nat) (t : Track) : TrackPlan → Prop where
  | unmatched (hrule : t.findRule rs = .ok none) :
      Decided rs input output t {
        decision := { input := input, stream := t.index, action := .unmatchedCopy,
                      outputs := [output] }
        instructions := copyStream input output }
  | dropped {rule : Rule} (hrule : t.findRule rs = .ok (some rule))
      (hoperations : rule.operations = []) :
      Decided rs input output t {
        decision := { input := input, stream := t.index, action := .drop, rule := some rule.label }
        instructions := [] }
  | applied {rule : Rule} {made : List Output} (hrule : t.findRule rs = .ok (some rule))
      (hoperations : rule.operations ≠ [])
      (hmade : MadeAll t rule input output rule.operations made) :
      Decided rs input output t {
        decision := {
          input := input, stream := t.index, action := .apply, rule := some rule.label,
          outputs := List.range' output made.length, notes := made.map Output.note }
        instructions := made.flatMap Output.instructions }

theorem decide_eq_ok_iff {rs : RuleSet} {input output : Nat} {t : Track} {made : TrackPlan} :
    (decide rs input output t).outcome = .ok made ↔ Decided rs input output t made := by
  simp only [decide, Logged.outcome_bind_eq_ok, Logged.outcome_liftM]
  constructor
  · rintro ⟨found, hfound, h⟩
    cases found with
    | none =>
      simp only [Logged.outcome_write_bind, Logged.outcome_pure] at h
      cases h
      exact .unmatched hfound
    | some rule =>
      simp only [Logged.outcome_write_bind] at h
      split at h
      · rename_i hdrops
        simp only [Logged.outcome_write_bind, Logged.outcome_pure] at h
        cases h
        exact .dropped hfound (List.isEmpty_iff.1 hdrops)
      · rename_i hdrops
        simp only [Logged.outcome_bind_eq_ok, Logged.outcome_pure,
          operationOutputs_eq_ok_iff] at h
        obtain ⟨outputs, houtputs, ⟨rfl⟩⟩ := h
        exact .applied hfound (fun hnil => hdrops (List.isEmpty_iff.2 hnil)) houtputs
  · rintro (hrule | ⟨hrule, hoperations⟩ | ⟨hrule, hoperations, hmade⟩)
    · exact ⟨none, hrule, rfl⟩
    · refine ⟨some _, hrule, ?_⟩
      simp only [Rule.drops, hoperations, List.isEmpty_nil, ↓reduceIte,
        Logged.outcome_write_bind, Logged.outcome_pure]
    · refine ⟨some _, hrule, ?_⟩
      have houtcome := operationOutputs_eq_ok_iff.2 hmade
      simp [Rule.drops, hoperations, houtcome, bind_eq_ok]

/-! ## All tracks -/

/-- What becomes of all tracks.  The input position goes up by one with every track, the output
position by the number of output tracks that were made from it. -/
inductive DecidedAll (rs : RuleSet) :
    (input output : Nat) → List Track → List TrackPlan → Prop where
  | nil (input output : Nat) : DecidedAll rs input output [] []
  | cons {input output : Nat} {t : Track} {tracks : List Track} {made : TrackPlan}
      {others : List TrackPlan} (first : Decided rs input output t made)
      (rest : DecidedAll rs (input + 1) (output + made.decision.outputs.length) tracks others) :
      DecidedAll rs input output (t :: tracks) (made :: others)

theorem decideAll_eq_ok_iff {rs : RuleSet} {input output : Nat} {tracks : List Track}
    {made : List TrackPlan} :
    (decideAll rs input output tracks).outcome = .ok made ↔
      DecidedAll rs input output tracks made := by
  induction tracks generalizing input output made with
  | nil =>
    rw [decideAll, Logged.outcome_pure]
    constructor
    · rintro ⟨rfl⟩
      exact .nil input output
    · rintro ⟨⟩
      rfl
  | cons t tracks ih =>
    simp only [decideAll, Logged.outcome_bind_eq_ok, Logged.outcome_pure, ih, decide_eq_ok_iff]
    constructor
    · rintro ⟨first, hfirst, others, hothers, ⟨rfl⟩⟩
      exact .cons hfirst hothers
    · rintro ⟨⟩
      exact ⟨_, ‹_›, _, ‹_›, rfl⟩

/-! ## The plan -/

/-- The plan for what becomes of the tracks.  If nothing but copying is to be done, it keeps the
decisions only. -/
def assembledPlan (rs : RuleSet) (made : List TrackPlan) (passthrough : List Passthrough) : Plan :=
  if made.all (·.decision.action == .unmatchedCopy) then
    { decisions := made.map TrackPlan.decision }
  else {
    instructions := made.flatMap TrackPlan.instructions
    decisions := made.map TrackPlan.decision
    changed := true
    watermark := rs.watermark
    copyVideo := true
    passthrough := passthrough
    suppressOther := passthrough.isEmpty }

theorem assembledPlan_changed (rs : RuleSet) (made : List TrackPlan)
    (passthrough : List Passthrough) : (assembledPlan rs made passthrough).changed =
      !made.all (·.decision.action == .unmatchedCopy) := by
  unfold assembledPlan
  split
  · rename_i hall
    rw [hall]
    rfl
  · rename_i hall
    rw [eq_false_of_ne_true hall]
    rfl

theorem assembledPlan_decisions (rs : RuleSet) (made : List TrackPlan)
    (passthrough : List Passthrough) :
    (assembledPlan rs made passthrough).decisions = made.map TrackPlan.decision := by
  unfold assembledPlan
  split
  · rfl
  · rfl

/-- A plan that changes something has the instructions for all tracks, and the other streams. -/
theorem assembledPlan_of_changed {rs : RuleSet} {made : List TrackPlan}
    {passthrough : List Passthrough} (h : (assembledPlan rs made passthrough).changed = true) :
    assembledPlan rs made passthrough = {
      instructions := made.flatMap TrackPlan.instructions
      decisions := made.map TrackPlan.decision
      changed := true
      watermark := rs.watermark
      copyVideo := true
      passthrough := passthrough
      suppressOther := passthrough.isEmpty } := by
  rw [assembledPlan_changed, Bool.not_eq_true'] at h
  rw [assembledPlan, if_neg (ne_true_of_eq_false h)]

theorem synthesize_eq_ok_iff {tracks others : List Track} {rs : RuleSet} {plan : Plan} :
    (synthesize tracks rs others).outcome = .ok plan ↔
      ∃ made passthrough, DecidedAll rs 0 0 tracks made ∧
        (planPassthrough others).outcome = .ok passthrough ∧
          (plan.changed = true → rs.Writable) ∧ assembledPlan rs made passthrough = plan := by
  obtain ⟨passthrough, hpassthrough⟩ := exists_passthroughFrom [] [] others
  have hothers : (planPassthrough others).outcome = .ok passthrough := hpassthrough
  simp only [synthesize, Logged.outcome_bind_eq_ok, decideAll_eq_ok_iff, List.all_map, hothers,
    assembledPlan, Except.ok.injEq, exists_and_left, exists_eq_left']
  refine exists_congr fun made => and_congr_right fun _ => ?_
  have hall : (made.all fun m => m.decision.action == .unmatchedCopy) =
      made.all ((fun d : Decision => d.action == .unmatchedCopy) ∘ TrackPlan.decision) := rfl
  rw [hall]
  split
  · simp only [Logged.outcome_write_bind, Logged.outcome_pure, Except.ok.injEq]
    constructor
    · rintro rfl
      exact ⟨nofun, rfl⟩
    · rintro ⟨-, rfl⟩
      rfl
  · simp only [Logged.outcome_bind_eq_ok, Logged.outcome_liftM, Logged.outcome_pure, hothers,
      Except.ok.injEq, exists_eq_left', marker_eq_ok_iff]
    constructor
    · rintro ⟨marker, ⟨hwritable, rfl⟩, rfl⟩
      exact ⟨fun _ => hwritable, rfl⟩
    · rintro ⟨hwritable, rfl⟩
      exact ⟨_, ⟨hwritable rfl, rfl⟩, rfl⟩

theorem synthesize_eq_ok {tracks others : List Track} {rs : RuleSet} {plan : Plan}
    (h : (synthesize tracks rs others).outcome = .ok plan) :
    ∃ made, DecidedAll rs 0 0 tracks made ∧ plan.decisions = made.map TrackPlan.decision ∧
      ((plan.changed = false ∧ plan.instructions = []) ∨
        ∃ passthrough, (planPassthrough others).outcome = .ok passthrough ∧
          plan = {
            instructions := made.flatMap TrackPlan.instructions
            decisions := made.map TrackPlan.decision
            changed := true
            watermark := rs.watermark
            copyVideo := true
            passthrough := passthrough
            suppressOther := passthrough.isEmpty }) := by
  obtain ⟨made, passthrough, hmade, hpassthrough, -, rfl⟩ := synthesize_eq_ok_iff.1 h
  refine ⟨made, hmade, ?_⟩
  unfold assembledPlan
  split
  · exact ⟨rfl, .inl ⟨rfl, rfl⟩⟩
  · exact ⟨rfl, .inr ⟨passthrough, hpassthrough, rfl⟩⟩

/-- A plan that changes something has the instructions for all tracks. -/
theorem synthesize_changed {tracks others : List Track} {rs : RuleSet} {plan : Plan}
    (h : (synthesize tracks rs others).outcome = .ok plan) (hchanged : plan.changed = true) :
    ∃ made passthrough, DecidedAll rs 0 0 tracks made ∧
      (planPassthrough others).outcome = .ok passthrough ∧
        plan = {
          instructions := made.flatMap TrackPlan.instructions
          decisions := made.map TrackPlan.decision
          changed := true
          watermark := rs.watermark
          copyVideo := true
          passthrough := passthrough
          suppressOther := passthrough.isEmpty } := by
  obtain ⟨made, hmade, -, ⟨hunchanged, -⟩ | ⟨passthrough, hpassthrough, hplan⟩⟩ :=
    synthesize_eq_ok h
  · rw [hunchanged] at hchanged
    exact absurd hchanged Bool.false_ne_true
  · exact ⟨made, passthrough, hmade, hpassthrough, hplan⟩

end AudioPlan
