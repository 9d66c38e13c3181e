import AudioPlan.Proofs.Plan.Positions

/-!
# Plans for two lists of tracks

A plan for two lists of tracks, one behind the other, is the plan for the first list followed by the
plan for the second with its positions moved on (`synthesize_append`).  So what becomes of a track
depends on the tracks before it through two numbers only.

* `shift` moves the positions of instructions and decisions on, and `operationOutput_shift` says
  that an operation makes the same at other positions;
* `Decided.shift` says so of a track, `DecidedAll.shift` of all tracks;
* `DecidedAll.append` puts what becomes of two lists together.
-/

namespace AudioPlan

/-! ## Moved positions -/

/-- An instruction for positions that are moved on. -/
def Instruction.shift (inputs outputs : Nat) (i : Instruction) : Instruction :=
  { i with output := i.output + outputs, input := i.input.map (· + inputs) }

/-- An output track at positions that are moved on. -/
def Output.shift (inputs outputs : Nat) (made : Output) : Output :=
  { made with instructions := made.instructions.map (Instruction.shift inputs outputs) }

/-- A decision about a track at positions that are moved on. -/
def Decision.shift (inputs outputs : Nat) (d : Decision) : Decision :=
  { d with input := d.input + inputs, outputs := d.outputs.map (· + outputs) }

/-- What becomes of a track at positions that are moved on. -/
def TrackPlan.shift (inputs outputs : Nat) (made : TrackPlan) : TrackPlan :=
  { decision := made.decision.shift inputs outputs
    instructions := made.instructions.map (Instruction.shift inputs outputs) }

/-- The number of output tracks that are made. -/
def ownedCount (made : List TrackPlan) : Nat :=
  ((made.map TrackPlan.decision).flatMap Decision.outputs).length

@[simp] theorem ownedCount_cons (first : TrackPlan) (made : List TrackPlan) :
    ownedCount (first :: made) = first.decision.outputs.length + ownedCount made := by
  simp [ownedCount]

@[simp] theorem Decision.length_outputs_shift (inputs outputs : Nat) (d : Decision) :
    (d.shift inputs outputs).outputs.length = d.outputs.length := by
  simp [Decision.shift]

section Shift

variable (inputs outputs input output : Nat)

theorem copyStream_shift : copyStream (input + inputs) (output + outputs) =
    (copyStream input output).map (Instruction.shift inputs outputs) := by
  simp [copyStream, Instruction.shift]

/-- A setting names its output track and no input track. -/
theorem setting_shift (kind : InstructionKind) (value : Value) :
    ({ kind := kind, output := ((output + outputs : Nat) : Int), value := value } : Instruction) =
      Instruction.shift inputs outputs
        { kind := kind, output := (output : Int), value := value } := by
  simp [Instruction.shift]

/-! ## Operations -/

/-- Instructions for positions that are moved on, with notes that do not change. -/
def shiftNoted (noted : List Instruction × List String) : List Instruction × List String :=
  (noted.1.map (Instruction.shift inputs outputs), noted.2)

theorem titleOutput_shift (t : Track) (rule : Rule) (operation : Operation)
    (channels bitRate : Field (Option Int)) :
    titleOutput t rule operation (output + outputs) channels bitRate =
      (titleOutput t rule operation output channels bitRate).map (shiftNoted inputs outputs) := by
  unfold titleOutput
  split
  · rfl
  · rfl
  · cases expandTitle _ t (some operation) rule.criteria.title channels bitRate with
    | error fault => rfl
    | ok title =>
      exact congrArg (fun i => Except.ok ([i], _)) (setting_shift inputs outputs output _ _)

theorem flagsOutput_shift (operation : Operation) :
    flagsOutput operation (output + outputs) =
      shiftNoted inputs outputs (flagsOutput operation output) := by
  unfold flagsOutput
  split
  · rfl
  · exact congrArg (fun i => ([i], _)) (setting_shift inputs outputs output _ _)

theorem resolvedOutput_shift (kind : InstructionKind) (unit : String)
    (r : Resolved (Field (Option Int))) :
    resolvedOutput kind unit (output + outputs) r =
      (resolvedOutput kind unit output r).map (shiftNoted inputs outputs) := by
  simp only [resolvedOutput]
  rw [setting_shift inputs]
  cases r.emit with
  | false => rfl
  | true =>
    cases r.value.optionalIntValue.written with
    | error fault => rfl
    | ok text => rfl

theorem filterOutput_shift (o : TranscodeOperation) :
    filterOutput o (output + outputs) =
      shiftNoted inputs outputs (filterOutput o output) := by
  unfold filterOutput
  split
  · rfl
  · rfl
  · exact congrArg (fun i => ([i], _)) (setting_shift inputs outputs output _ _)

theorem copyOutput_shift (t : Track) (rule : Rule) (o : CopyOperation) :
    copyOutput t rule o (input + inputs) (output + outputs) =
      (copyOutput t rule o input output).map (Output.shift inputs outputs) := by
  simp only [copyOutput, titleOutput_shift inputs, flagsOutput_shift inputs,
    copyStream_shift inputs]
  cases titleOutput t rule (.copy o) output (.known none) t.bitRate with
  | error fault => rfl
  | ok title => simp [Except.map, bind, Except.bind, pure, Except.pure, Output.shift, shiftNoted]

theorem transcodeOutput_shift (t : Track) (rule : Rule) (o : TranscodeOperation) :
    transcodeOutput t rule o (input + inputs) (output + outputs) =
      (transcodeOutput t rule o input output).map (Output.shift inputs outputs) := by
  simp only [transcodeOutput, titleOutput_shift inputs, flagsOutput_shift inputs,
    resolvedOutput_shift inputs, filterOutput_shift inputs, bind, Except.bind]
  cases targetCodec t o with
  | error fault => rfl
  | ok codec =>
    dsimp only
    cases resolveChannelField codec t.channels o.channels with
    | error fault => rfl
    | ok channels =>
      dsimp only
      cases resolvedOutput .setChannels "ch" output channels with
      | error fault => rfl
      | ok setChannels =>
        cases resolveBitRateField codec t.bitRate o.bitRate with
        | error fault => rfl
        | ok bitRate =>
          dsimp only [Except.map]
          cases resolvedOutput .setBitRate "bps" output bitRate with
          | error fault => rfl
          | ok setBitRate =>
            dsimp only
            cases titleOutput t rule (.transcode o) output channels.value bitRate.value with
            | error fault => rfl
            | ok title =>
              simp [pure, Except.pure, Output.shift, shiftNoted, Instruction.shift]

/-- An operation makes the same output track at other positions. -/
theorem operationOutput_shift (t : Track) (rule : Rule) (operation : Operation) :
    operationOutput t rule operation (input + inputs) (output + outputs) =
      (operationOutput t rule operation input output).map (Output.shift inputs outputs) := by
  cases operation with
  | copy o => exact copyOutput_shift inputs outputs input output t rule o
  | transcode o => exact transcodeOutput_shift inputs outputs input output t rule o

end Shift

/-! ## Tracks -/

section Tracks

variable {rs : RuleSet} {input output : Nat}

theorem MadeAll.shift {t : Track} {rule : Rule} {operations : List Operation} {made : List Output}
    (h : MadeAll t rule input output operations made) (inputs outputs : Nat) :
    MadeAll t rule (input + inputs) (output + outputs) operations
      (made.map (Output.shift inputs outputs)) := by
  induction h with
  | nil output => exact .nil _
  | @cons output operation operations made others first rest ih =>
    have hfirst : operationOutput t rule operation (input + inputs) (output + outputs) =
        .ok (made.shift inputs outputs) := by
      rw [operationOutput_shift, first]
      rfl
    rw [Nat.add_right_comm] at ih
    exact .cons hfirst ih

/-- What becomes of a track is the same at other positions. -/
theorem Decided.shift {t : Track} {made : TrackPlan} (h : Decided rs input output t made)
    (inputs outputs : Nat) :
    Decided rs (input + inputs) (output + outputs) t (made.shift inputs outputs) := by
  cases h with
  | unmatched hrule =>
    have hunmatched : Decided rs (input + inputs) (output + outputs) t _ := .unmatched hrule
    rw [copyStream_shift] at hunmatched
    exact hunmatched
  | dropped hrule hoperations => exact .dropped hrule hoperations
  | @applied rule made hrule hoperations hmade =>
    have happlied := Decided.applied hrule hoperations (hmade.shift inputs outputs)
    rw [List.length_map, List.map_map, List.flatMap_map] at happlied
    simpa [TrackPlan.shift, Decision.shift, List.map_flatMap, List.map_add_range', Output.shift,
      Function.comp_def, Nat.add_comm] using happlied

theorem DecidedAll.shift {tracks : List Track} {made : List TrackPlan}
    (h : DecidedAll rs input output tracks made) (inputs outputs : Nat) :
    DecidedAll rs (input + inputs) (output + outputs) tracks
      (made.map (TrackPlan.shift inputs outputs)) := by
  induction h with
  | nil input output => exact .nil _ _
  | @cons input output t tracks made others first rest ih =>
    have hlength : (made.shift inputs outputs).decision.outputs.length =
        made.decision.outputs.length := Decision.length_outputs_shift inputs outputs made.decision
    rw [Nat.add_right_comm input, Nat.add_right_comm output, ← hlength] at ih
    exact .cons (first.shift inputs outputs) ih

/-- What becomes of two lists of tracks, the second one at the positions that the first leads to. -/
theorem DecidedAll.append {first second : List Track} {made others : List TrackPlan}
    (hfirst : DecidedAll rs input output first made)
    (hsecond : DecidedAll rs (input + first.length) (output + ownedCount made) second others) :
    DecidedAll rs input output (first ++ second) (made ++ others) := by
  induction hfirst with
  | nil input output => exact hsecond
  | @cons input output t tracks made rest decided _ ih =>
    rw [ownedCount_cons, List.length_cons, Nat.add_comm tracks.length, ← Nat.add_assoc,
      ← Nat.add_assoc] at hsecond
    exact .cons decided (ih hsecond)

/-- Tracks that no rule matches are all copied as they are. -/
theorem DecidedAll.instructions_unmatched {tracks : List Track} {made : List TrackPlan}
    (h : DecidedAll rs input output tracks made)
    (hunmatched : ∀ m ∈ made, m.decision.action = .unmatchedCopy) :
    made.flatMap TrackPlan.instructions =
      (List.range tracks.length).flatMap fun k => copyStream (input + k) (output + k) := by
  induction h with
  | nil => rfl
  | @cons input output t tracks made others first rest ih =>
    obtain ⟨hmade, hothers⟩ := List.forall_mem_cons.1 hunmatched
    have hcopy : made.instructions = copyStream input output ∧
        made.decision.outputs.length = 1 := by
      cases first with
      | unmatched hrule => exact ⟨rfl, rfl⟩
      | dropped hrule hoperations => cases hmade
      | applied hrule hoperations hall => cases hmade
    rw [List.flatMap_cons, ih hothers, hcopy.1, hcopy.2, List.length_cons, List.range_succ_eq_map,
      List.flatMap_cons, List.flatMap_map]
    simp only [Nat.add_zero, Nat.succ_eq_add_one, Nat.add_assoc, Nat.add_comm 1]

end Tracks

/-! ## Plans -/

/-- The instructions for tracks of which each is copied as it is. -/
def copyTracks (count : Nat) : List Instruction :=
  (List.range count).flatMap fun k => copyStream k k

/-- The instructions for the tracks of a plan.  A plan that changes nothing stands for copies. -/
def Plan.block (p : Plan) (tracks : List Track) : List Instruction :=
  if p.changed then p.instructions else copyTracks tracks.length

/-- The number of output tracks that the decisions of a plan own. -/
def Plan.owned (p : Plan) : Nat :=
  (p.decisions.flatMap Decision.outputs).length

theorem DecidedAll.block_eq {rs : RuleSet} {tracks : List Track} {made : List TrackPlan}
    (h : DecidedAll rs 0 0 tracks made) (passthrough : List Passthrough) :
    (assembledPlan rs made passthrough).block tracks = made.flatMap TrackPlan.instructions := by
  unfold assembledPlan
  split
  · rename_i hall
    have hunmatched : ∀ m ∈ made, m.decision.action = .unmatchedCopy := by simpa using hall
    rw [h.instructions_unmatched hunmatched]
    simp [Plan.block, copyTracks]
  · rfl

/-- The plan for two lists of tracks, one behind the other, is made of the plans for each.  It
changes something if one of them does, its decisions are those of both, and its instructions are
those for the tracks of both; the positions of the second plan go on where those of the first
end. -/
theorem synthesize_append {rs : RuleSet} {first second : List Track}
    {firstOthers secondOthers : List Track} {firstPlan secondPlan : Plan}
    (hfirst : (synthesize first rs firstOthers).outcome = .ok firstPlan)
    (hsecond : (synthesize second rs secondOthers).outcome = .ok secondPlan)
    (others : List Track) :
    ∃ plan, (synthesize (first ++ second) rs others).outcome = .ok plan ∧
      plan.changed = (firstPlan.changed || secondPlan.changed) ∧
      plan.decisions = firstPlan.decisions ++
        secondPlan.decisions.map (Decision.shift first.length firstPlan.owned) ∧
      (plan.changed = true → plan.instructions = firstPlan.block first ++
        (secondPlan.block second).map (Instruction.shift first.length firstPlan.owned)) := by
  obtain ⟨made, firstPassthrough, hmade, -, hfirstMarker, rfl⟩ := synthesize_eq_ok_iff.1 hfirst
  obtain ⟨more, secondPassthrough, hmore, -, hsecondMarker, rfl⟩ := synthesize_eq_ok_iff.1 hsecond
  obtain ⟨passthrough, hpassthrough⟩ := exists_passthroughFrom [] [] others
  have howned : (assembledPlan rs made firstPassthrough).owned = ownedCount made := by
    rw [Plan.owned, assembledPlan_decisions]
    rfl
  have hall := hmade.append (hmore.shift first.length (ownedCount made))
  have hchanged : (assembledPlan rs
      (made ++ more.map (TrackPlan.shift first.length (ownedCount made))) passthrough).changed =
      ((assembledPlan rs made firstPassthrough).changed ||
        (assembledPlan rs more secondPassthrough).changed) := by
    rw [assembledPlan_changed, assembledPlan_changed, assembledPlan_changed, List.all_append,
      List.all_map, Bool.not_and]
    rfl
  -- A part that changes something has a marker, and the whole needs no other.
  have hmarker := fun h => (Bool.or_eq_true_iff.1 (hchanged.symm.trans h)).elim hfirstMarker
    hsecondMarker
  rw [howned, hmade.block_eq, hmore.block_eq, assembledPlan_decisions, assembledPlan_decisions]
  refine ⟨_, synthesize_eq_ok_iff.2 ⟨_, passthrough, hall, hpassthrough, hmarker, rfl⟩, hchanged,
    ?_, ?_⟩
  · rw [assembledPlan_decisions, List.map_append, List.map_map, List.map_map]
    rfl
  · intro hnew
    have hblock := hall.block_eq passthrough
    rw [Plan.block, if_pos hnew] at hblock
    rw [hblock, List.flatMap_append, List.flatMap_map, List.map_flatMap]
    rfl

/-- Behind tracks of which one is dropped and one made into two, a track that no rule matches, alone
in a plan that changes nothing, is copied to the next output track. -/
theorem synthesize_append_mixed :
    ∃ firstPlan secondPlan plan, (synthesize mixedTracks mixedRules []).outcome = .ok firstPlan ∧
      (synthesize (mixedTracks.take 1) mixedRules []).outcome = .ok secondPlan ∧
      secondPlan.changed = false ∧
      (synthesize (mixedTracks ++ mixedTracks.take 1) mixedRules []).outcome = .ok plan ∧
      plan.changed = true ∧
      plan.decisions = firstPlan.decisions ++ secondPlan.decisions.map (Decision.shift 3 3) ∧
      plan.instructions = firstPlan.instructions ++ copyStream 3 3 := by
  obtain ⟨firstPlan, hfirst, hchanged, houtputs⟩ := synthesize_mixed
  have hseen : (synthesize (mixedTracks.take 1) mixedRules []).outcome.toOption.map Plan.changed =
      some false := by decide +kernel
  cases hsecond : (synthesize (mixedTracks.take 1) mixedRules []).outcome with
  | error fault => simp [hsecond, Except.toOption] at hseen
  | ok secondPlan =>
    have hsame : secondPlan.changed = false := by simpa [hsecond, Except.toOption] using hseen
    have howned : firstPlan.owned = 3 := by
      rw [Plan.owned, List.flatMap_def, houtputs]
      rfl
    obtain ⟨plan, hplan, hnew, hdecisions, hinstructions⟩ :=
      synthesize_append hfirst hsecond []
    rw [hchanged, Bool.true_or] at hnew
    rw [howned] at hdecisions hinstructions
    refine ⟨firstPlan, secondPlan, plan, hfirst, rfl, hsame, hplan, hnew, hdecisions, ?_⟩
    rw [hinstructions hnew, Plan.block, Plan.block, if_pos hchanged, hsame,
      if_neg Bool.false_ne_true]
    rfl

end AudioPlan
