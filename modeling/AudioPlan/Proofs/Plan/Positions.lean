import AudioPlan.Proofs.Plan.Block

/-!
# Positions in a plan

The input position and the output position move at different speeds through a synthesis.  This file
shows that what is recorded of them agrees all the same.

* `Decision.Accounts` says what the decision about one track has to record;
* `DecidedAll.outputs_eq` says that decisions own consecutive output tracks, and
  `DecidedAll.source_of_owned` that each block maps the track of the decision that owns it;
* `DecidedAll.mem_sourcesOf_iff` says that the tracks that no output track is made of are those that
  are dropped;
* `synthesize_positions` puts them together for a plan.
-/

namespace AudioPlan

/-- A decision about a track at a position.  It names both, and it owns one output track if no rule
matches, otherwise one for each operation of the rule that matches, with a note on each. -/
structure Decision.Accounts (rs : RuleSet) (position : Nat) (t : Track) (d : Decision) : Prop where
  input_eq : d.input = position
  stream_eq : d.stream = t.index
  owned : (t.findRule rs = .ok none ∧ d.outputs.length = 1) ∨
    ∃ rule, t.findRule rs = .ok (some rule) ∧ d.outputs.length = rule.operations.length ∧
      d.notes.length = d.outputs.length

theorem Decided.accounts {rs : RuleSet} {input output : Nat} {t : Track} {made : TrackPlan}
    (h : Decided rs input output t made) : made.decision.Accounts rs input t := by
  cases h with
  | unmatched hrule => exact ⟨rfl, rfl, .inl ⟨hrule, rfl⟩⟩
  | @dropped rule hrule hoperations =>
    refine ⟨rfl, rfl, .inr ⟨rule, hrule, ?_, rfl⟩⟩
    rw [hoperations]
    rfl
  | @applied rule outputs hrule hoperations hmade =>
    refine ⟨rfl, rfl, .inr ⟨rule, hrule, ?_, ?_⟩⟩
    · rw [List.length_range', hmade.length_eq]
    · rw [List.length_map, List.length_range']

/-- The output tracks of one decision are consecutive, from the output position on. -/
theorem Decided.outputs_eq {rs : RuleSet} {input output : Nat} {t : Track} {made : TrackPlan}
    (h : Decided rs input output t made) :
    made.decision.outputs = List.range' output made.decision.outputs.length := by
  cases h with
  | unmatched hrule => rfl
  | dropped hrule hoperations => rfl
  | applied hrule hoperations hmade => rw [List.length_range']

theorem DecidedAll.length_eq {rs : RuleSet} {input output : Nat} {tracks : List Track}
    {made : List TrackPlan} (h : DecidedAll rs input output tracks made) :
    made.length = tracks.length := by
  induction h with
  | nil => rfl
  | cons first rest ih => rw [List.length_cons, List.length_cons, ih]

theorem DecidedAll.accounts {rs : RuleSet} {input output : Nat} {tracks : List Track}
    {made : List TrackPlan} (h : DecidedAll rs input output tracks made) {j : Nat} {t : Track}
    {d : Decision} (ht : tracks[j]? = some t)
    (hd : (made.map TrackPlan.decision)[j]? = some d) : d.Accounts rs (input + j) t := by
  induction h generalizing j with
  | nil => simp at ht
  | @cons input output t' tracks made others first rest ih =>
    cases j with
    | zero =>
      simp only [List.map_cons, List.getElem?_cons_zero, Option.some.injEq] at ht hd
      rw [← ht, ← hd]
      exact first.accounts
    | succ j =>
      simp only [List.map_cons, List.getElem?_cons_succ] at ht hd
      rw [show input + (j + 1) = input + 1 + j by omega]
      exact ih ht hd

@[simp] theorem sourcesOf_cons (d : Decision) (decisions : List Decision) :
    sourcesOf (d :: decisions) =
      List.replicate d.outputs.length d.input ++ sourcesOf decisions := by
  simp [sourcesOf]

/-- The output tracks of all decisions, in order, count up from the output position without a gap
or a repetition. -/
theorem DecidedAll.outputs_eq {rs : RuleSet} {input output : Nat} {tracks : List Track}
    {made : List TrackPlan} (h : DecidedAll rs input output tracks made) :
    (made.map TrackPlan.decision).flatMap Decision.outputs =
      List.range' output (sourcesOf (made.map TrackPlan.decision)).length := by
  induction h with
  | nil => rfl
  | @cons input output t tracks made others first rest ih =>
    rw [List.map_cons, List.flatMap_cons, ih, first.outputs_eq, sourcesOf_cons,
      List.length_append, List.length_replicate, List.length_range', List.range'_append_1]

/-- What becomes of one track among others.  The other tracks have no instructions for the output
tracks that its decision owns. -/
theorem DecidedAll.exists_decided {rs : RuleSet} {input output : Nat} {tracks : List Track}
    {made : List TrackPlan} (h : DecidedAll rs input output tracks made) {j : Nat} {t : Track}
    {m : TrackPlan} (ht : tracks[j]? = some t) (hm : made[j]? = some m) :
    ∃ first, Decided rs (input + j) first t m ∧ ∀ k ∈ m.decision.outputs,
      (made.flatMap TrackPlan.instructions).filter (·.output == (k : Int)) =
        m.instructions.filter (·.output == (k : Int)) := by
  induction h generalizing j with
  | nil => cases ht
  | @cons input output t' tracks m' others decided rest ih =>
    simp only [List.flatMap_cons, List.filter_append]
    cases j with
    | zero =>
      rw [List.getElem?_cons_zero, Option.some.injEq] at ht hm
      subst ht hm
      refine ⟨output, decided, fun k hk => ?_⟩
      -- The output tracks of the other tracks come later.
      have hlater : k < output + m'.decision.outputs.length := by
        rw [decided.outputs_eq, List.mem_range'_1] at hk
        exact hk.2
      rw [rest.blocks.filter_eq_nil (.inl hlater), List.append_nil]
    | succ j =>
      rw [List.getElem?_cons_succ] at ht hm
      obtain ⟨first, hdecided, hinstructions⟩ := ih ht hm
      refine ⟨first, ?_, fun k hk => ?_⟩
      · rw [show input + (j + 1) = input + 1 + j by omega]
        exact hdecided
      · -- The output tracks of the first track come earlier.
        have hmem : k ∈ (others.map TrackPlan.decision).flatMap Decision.outputs :=
          List.mem_flatMap.2 ⟨_, List.mem_map_of_mem (List.mem_of_getElem? hm), hk⟩
        rw [rest.outputs_eq, List.mem_range'_1] at hmem
        have hearlier : output + (sourcesOf [m'.decision]).length ≤ k := by
          rw [sourcesOf, List.flatMap_singleton, List.length_replicate]
          exact hmem.1
        rw [decided.blocks.filter_eq_nil (.inr hearlier), List.nil_append, hinstructions k hk]

/-- The source of an output track is the input position of the decision that owns it. -/
theorem DecidedAll.source_of_owned {rs : RuleSet} {input output : Nat} {tracks : List Track}
    {made : List TrackPlan} (h : DecidedAll rs input output tracks made) {d : Decision}
    (hd : d ∈ made.map TrackPlan.decision) {k : Nat} (hk : k ∈ d.outputs) :
    ∃ j, k = output + j ∧ (sourcesOf (made.map TrackPlan.decision))[j]? = some d.input := by
  induction h with
  | nil => simp at hd
  | @cons input output t tracks made others first rest ih =>
    rw [List.map_cons] at hd ⊢
    rw [sourcesOf_cons]
    rcases List.mem_cons.1 hd with rfl | hd
    · rw [first.outputs_eq, List.mem_range'_1] at hk
      have hlt : k - output < made.decision.outputs.length := by omega
      refine ⟨k - output, by omega, ?_⟩
      rw [List.getElem?_append_left (by simpa using hlt), List.getElem?_replicate, if_pos hlt]
    · obtain ⟨j, hj, hsource⟩ := ih hd
      refine ⟨made.decision.outputs.length + j, by omega, ?_⟩
      rw [List.getElem?_append_right (by simp), List.length_replicate, Nat.add_sub_cancel_left]
      exact hsource

/-- A track is dropped exactly when no output track is made of it. -/
theorem Decided.drop_iff {rs : RuleSet} {input output : Nat} {t : Track} {made : TrackPlan}
    (h : Decided rs input output t made) :
    made.decision.action = .drop ↔ made.decision.outputs = [] := by
  cases h with
  | unmatched hrule => simp
  | dropped hrule hoperations => simp
  | applied hrule hoperations hmade =>
    have hlength := hmade.length_eq
    have hne := List.length_pos_iff.2 hoperations
    simp only [reduceCtorEq, false_iff]
    intro hnil
    have houtputs := congrArg List.length hnil
    rw [List.length_range', List.length_nil] at houtputs
    omega

theorem DecidedAll.drop_iff {rs : RuleSet} {input output : Nat} {tracks : List Track}
    {made : List TrackPlan} (h : DecidedAll rs input output tracks made) :
    ∀ d ∈ made.map TrackPlan.decision, d.action = .drop ↔ d.outputs = [] := by
  induction h with
  | nil => simp
  | cons first rest ih =>
    rw [List.map_cons, List.forall_mem_cons]
    exact ⟨first.drop_iff, ih⟩

theorem mem_sourcesOf {decisions : List Decision} {n : Nat} :
    n ∈ sourcesOf decisions ↔ ∃ d ∈ decisions, d.outputs ≠ [] ∧ d.input = n := by
  simp only [sourcesOf, List.mem_flatMap, List.mem_replicate, ne_eq, List.length_eq_zero_iff]
  exact exists_congr fun d => and_congr_right fun _ => and_congr_right fun _ => eq_comm

/-- The input position of a decision is its own place among them. -/
theorem DecidedAll.input_eq {rs : RuleSet} {tracks : List Track} {made : List TrackPlan}
    (h : DecidedAll rs 0 0 tracks made) {j : Nat} {d : Decision}
    (hd : (made.map TrackPlan.decision)[j]? = some d) : d.input = j := by
  obtain ⟨hlt, -⟩ := List.getElem?_eq_some_iff.1 hd
  rw [List.length_map, h.length_eq] at hlt
  have haccounts := h.accounts (List.getElem?_eq_getElem hlt) hd
  rw [haccounts.input_eq, Nat.zero_add]

/-- The tracks that output tracks are made of are those that are not dropped. -/
theorem DecidedAll.mem_sourcesOf_iff {rs : RuleSet} {tracks : List Track} {made : List TrackPlan}
    (h : DecidedAll rs 0 0 tracks made) {i : Nat} {d : Decision}
    (hd : (made.map TrackPlan.decision)[i]? = some d) :
    i ∈ sourcesOf (made.map TrackPlan.decision) ↔ d.action ≠ .drop := by
  rw [ne_eq, h.drop_iff d (List.mem_of_getElem? hd), mem_sourcesOf]
  constructor
  · rintro ⟨other, hother, houtputs, hinput⟩
    obtain ⟨j, hj⟩ := List.mem_iff_getElem?.1 hother
    obtain rfl : j = i := (h.input_eq hj).symm.trans hinput
    rw [hd, Option.some.injEq] at hj
    rwa [hj]
  · intro houtputs
    exact ⟨d, List.mem_of_getElem? hd, houtputs, h.input_eq hd⟩

/-- Positions in a plan agree.  There is one decision for each track, in order, with the position of
the track; the output tracks that decisions own count up from zero; and in a plan that changes
something these are all output tracks, each with exactly one source, which is the track of the
decision that owns it. -/
theorem synthesize_positions {tracks others : List Track} {rs : RuleSet} {plan : Plan}
    (h : (synthesize tracks rs others).outcome = .ok plan) :
    plan.decisions.length = tracks.length ∧
    (∀ (j : Nat) (t : Track) (d : Decision),
      tracks[j]? = some t → plan.decisions[j]? = some d → d.Accounts rs j t) ∧
    ∃ n, plan.decisions.flatMap Decision.outputs = List.range n ∧
      (plan.changed = true → n = plan.outputCount ∧
        ∀ d ∈ plan.decisions, ∀ k ∈ d.outputs,
          (plan.forOutput k).filter (·.kind == .mapSource) =
            [{ kind := .mapSource, output := k, input := some (d.input : Int) }]) := by
  obtain ⟨made, hmade, hdecisions, hplan⟩ := synthesize_eq_ok h
  rw [hdecisions]
  refine ⟨?_, ?_, (sourcesOf (made.map TrackPlan.decision)).length, ?_, ?_⟩
  · rw [List.length_map, hmade.length_eq]
  · intro j t d ht hd
    have haccounts := hmade.accounts ht hd
    rwa [Nat.zero_add] at haccounts
  · rw [hmade.outputs_eq, List.range_eq_range']
  · intro hchanged
    rcases hplan with ⟨hunchanged, -⟩ | ⟨passthrough, -, rfl⟩
    · rw [hunchanged] at hchanged
      exact absurd hchanged (by decide)
    · refine ⟨hmade.blocks.countP_mapSource.symm, ?_⟩
      intro d hd k hk
      obtain ⟨j, hj, hsource⟩ := hmade.source_of_owned hd hk
      have hblock := hmade.blocks.filter_output hsource
      rw [Nat.zero_add] at hj hblock
      rw [Plan.forOutput, hj]
      exact hblock.filter_mapSource

/-- Three tracks of different codecs. -/
def mixedTracks : List Track :=
  [{ index := .known 1, codec := .known (some "ac3") },
   { index := .known 2, codec := .known (some "dts") },
   { index := .known 4, codec := .known (some "aac"), channels := .known 8 }]

/-- Rules that drop one codec and make two output tracks of another. -/
def mixedRules : RuleSet :=
  { rules := [
    { criteria := { codecs := .anyOf ["dts"] } },
    { criteria := { codecs := .anyOf ["aac"] },
      operations := [.copy {}, .transcode { codec := "ac3", title := some "Down" }] }] }

theorem synthesize_mixed :
    ∃ plan, (synthesize mixedTracks mixedRules []).outcome = .ok plan ∧ plan.changed = true ∧
      plan.decisions.map Decision.outputs = [[0], [], [1, 2]] := by
  have hseen : ((synthesize mixedTracks mixedRules []).outcome.toOption.map fun plan =>
      (plan.changed, plan.decisions.map Decision.outputs)) = some (true, [[0], [], [1, 2]]) := by
    decide +kernel
  obtain ⟨plan, hplan, hparts⟩ := exists_eq_ok_of_map hseen
  exact ⟨plan, hplan, Prod.mk.inj hparts⟩

/-- A track that is copied, one that is dropped and one that is made into two. -/
theorem synthesize_positions_mixed :
    ∃ plan, (synthesize mixedTracks mixedRules []).outcome = .ok plan ∧
      plan.decisions.length = mixedTracks.length ∧
      (∀ (j : Nat) (t : Track) (d : Decision), mixedTracks[j]? = some t →
        plan.decisions[j]? = some d → d.Accounts mixedRules j t) ∧
      ∃ n, plan.decisions.flatMap Decision.outputs = List.range n ∧ n = plan.outputCount ∧
        ∀ d ∈ plan.decisions, ∀ k ∈ d.outputs,
          (plan.forOutput k).filter (·.kind == .mapSource) =
            [{ kind := .mapSource, output := k, input := some (d.input : Int) }] := by
  obtain ⟨plan, hplan, hchanged, -⟩ := synthesize_mixed
  obtain ⟨hlength, haccounts, n, hn, hsources⟩ := synthesize_positions hplan
  exact ⟨plan, hplan, hlength, haccounts, n, hn, hsources hchanged⟩

end AudioPlan
