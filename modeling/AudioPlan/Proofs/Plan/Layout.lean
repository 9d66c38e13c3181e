import AudioPlan.Proofs.Plan.Positions

/-!
# The layout of a plan

What stands in the block of each output track, and in which order.

* `opening` is the part that every block has, and `setting` a part that a block may have;
* `OperationBlock` is the block of an operation, with the reason for every part that it may have;
* `OutputBlock` is the block that stands at one place of a decision about a track;
* `DecidedAll.filter_output` finds what the instructions for one output track come from, and
  `synthesize_madeBy` the output track that an instruction is made for;
* `synthesize_layout` says that a plan is made of such blocks, one for each output track in turn.
-/

namespace AudioPlan

/-! ## Parts of a block -/

/-- The first two instructions for an output track. -/
def opening (codec : String) (input output : Nat) : List Instruction :=
  [{ kind := .mapSource, output := output, input := some (input : Int) },
   { kind := .setCodec, output := output, value := .text codec }]

/-- The instruction that sets a value, if there is a value to set. -/
def setting (kind : InstructionKind) (output : Nat) : Option Value → List Instruction
  | some value => [{ kind := kind, output := output, value := value }]
  | none => []

/-- What the encoder is told of a parameter, if it has to be told. -/
def Resolved.emitted (r : Resolved (Field (Option Int))) : Option Value :=
  if r.emit then some r.value.optionalIntValue else none

/-- A text that is set unless it is missing or empty. -/
def filledText : Option String → Option Value
  | none | some "" => none
  | some s => some (.text s)

theorem filledText_of_ne {s : String} (hne : s ≠ "") : filledText (some s) = some (.text s) := by
  unfold filledText
  split
  · contradiction
  · rename_i hempty
    exact absurd (Option.some.inj hempty) hne
  · rename_i heq
    rw [Option.some.inj heq]

/-- The text of flags, unless there are none. -/
def filledFlags : List (String × Bool) → Option Value
  | [] => none
  | flag :: flags => some (.text (encodeFlags (flag :: flags)))

theorem resolvedOutput_eq_ok {kind : InstructionKind} {unit : String} {output : Nat}
    {r : Resolved (Field (Option Int))} {made : List Instruction × List String}
    (h : resolvedOutput kind unit output r = .ok made) :
    made.1 = setting kind output r.emitted := by
  rw [resolvedOutput] at h
  rw [Resolved.emitted]
  split at h
  · rename_i hemit
    obtain ⟨text, -, h⟩ := bind_eq_ok.1 h
    cases h
    rw [if_pos hemit, setting]
  · rename_i hemit
    cases h
    rw [if_neg hemit, setting]

theorem filterOutput_eq (o : TranscodeOperation) (output : Nat) :
    (filterOutput o output).1 = setting .setFilter output (filledText o.filters) := by
  unfold filterOutput
  split
  · rename_i hnone
    rw [hnone]
    rfl
  · rename_i hempty
    rw [hempty]
    rfl
  · rename_i filters hne hfilters
    rw [hfilters, filledText_of_ne hne]
    rfl

theorem flagsOutput_eq (operation : Operation) (output : Nat) :
    (flagsOutput operation output).1 =
      setting .setDisposition output (filledFlags operation.dispositions) := by
  unfold flagsOutput filledFlags
  cases operation.dispositions with
  | nil => rfl
  | cons flag flags => rfl

/-- The title that an operation sets: what becomes of its template, unless it has none or an empty
one. -/
inductive Titled (t : Track) (rule : Rule) (operation : Operation)
    (channels bitRate : Field (Option Int)) : Option Value → Prop where
  | untitled (htemplate : operation.title = none ∨ operation.title = some "") :
      Titled t rule operation channels bitRate none
  | titled {template title : String} (htemplate : operation.title = some template)
      (hne : template ≠ "")
      (htitle : expandTitle template t (some operation) rule.criteria.title channels bitRate =
        .ok title) :
      Titled t rule operation channels bitRate (some (.text title))

theorem titleOutput_titled {t : Track} {rule : Rule} {operation : Operation} {output : Nat}
    {channels bitRate : Field (Option Int)} {made : List Instruction × List String}
    (h : titleOutput t rule operation output channels bitRate = .ok made) :
    ∃ title, Titled t rule operation channels bitRate title ∧
      made.1 = setting .setTitle output title := by
  unfold titleOutput at h
  split at h
  · rename_i hnone
    cases h
    exact ⟨none, .untitled (.inl hnone), rfl⟩
  · rename_i hempty
    cases h
    exact ⟨none, .untitled (.inr hempty), rfl⟩
  · rename_i template hne htemplate
    obtain ⟨title, htitle, h⟩ := bind_eq_ok.1 h
    cases h
    exact ⟨some (.text title), .titled htemplate hne htitle, rfl⟩

/-! ## The block of an operation -/

/-- The instructions of an operation for one output track.  A title, flags and filters are set if
the operation has them; a channel count and a bit rate if the encoder has to be told. -/
inductive OperationBlock (t : Track) (rule : Rule) (input output : Nat) :
    Operation → List Instruction → Prop where
  | copy {o : CopyOperation} {title : Option Value}
      (htitle : Titled t rule (.copy o) (.known none) t.bitRate title) :
      OperationBlock t rule input output (.copy o)
        (opening keepCodec input output ++
          setting .setTitle output title ++
          setting .setDisposition output (filledFlags o.dispositions))
  | transcode {o : TranscodeOperation} {codec : String}
      {channels bitRate : Resolved (Field (Option Int))} {title : Option Value}
      (hcodec : targetCodec t o = .ok codec)
      (hchannels : resolveChannelField codec t.channels o.channels = .ok channels)
      (hbitRate : resolveBitRateField codec t.bitRate o.bitRate = .ok bitRate)
      (htitle : Titled t rule (.transcode o) channels.value bitRate.value title) :
      OperationBlock t rule input output (.transcode o)
        (opening codec input output ++
          setting .setChannels output channels.emitted ++
          setting .setBitRate output bitRate.emitted ++
          setting .setLanguage output (some t.languageOrUnd.textValue) ++
          setting .setTitle output title ++
          setting .setDisposition output (filledFlags o.dispositions) ++
          setting .setFilter output (filledText o.filters))

theorem operationOutput_layout {t : Track} {rule : Rule} {operation : Operation}
    {input output : Nat} {made : Output}
    (h : operationOutput t rule operation input output = .ok made) :
    OperationBlock t rule input output operation made.instructions := by
  cases operation with
  | copy o =>
    obtain ⟨⟨set, notes⟩, hset, h⟩ := bind_eq_ok.1 h
    cases h
    obtain ⟨title, htitle, rfl⟩ := titleOutput_titled hset
    change OperationBlock t rule input output (.copy o)
      (copyStream input output ++ _ ++ (flagsOutput (.copy o) output).1)
    rw [flagsOutput_eq]
    exact .copy htitle
  | transcode o =>
    obtain ⟨codec, hcodec, h⟩ := bind_eq_ok.1 h
    obtain ⟨channels, hchannels, h⟩ := bind_eq_ok.1 h
    obtain ⟨⟨setChannels, channelNotes⟩, hsetChannels, h⟩ := bind_eq_ok.1 h
    obtain ⟨bitRate, hbitRate, h⟩ := bind_eq_ok.1 h
    obtain ⟨⟨setBitRate, bitRateNotes⟩, hsetBitRate, h⟩ := bind_eq_ok.1 h
    obtain ⟨⟨set, notes⟩, hset, h⟩ := bind_eq_ok.1 h
    cases h
    obtain ⟨title, htitle, rfl⟩ := titleOutput_titled hset
    obtain rfl := resolvedOutput_eq_ok hsetChannels
    obtain rfl := resolvedOutput_eq_ok hsetBitRate
    change OperationBlock t rule input output (.transcode o)
      (opening codec input output ++ setting .setChannels output channels.emitted ++
        setting .setBitRate output bitRate.emitted ++
        setting .setLanguage output (some t.languageOrUnd.textValue) ++ _ ++
        (flagsOutput (.transcode o) output).1 ++ (filterOutput o output).1)
    rw [flagsOutput_eq, filterOutput_eq]
    exact .transcode hcodec hchannels hbitRate htitle

/-! ## The block at a place of a decision -/

/-- The instructions for the output track that stands at a place of the decision about a track.  If
no rule matches, the track is copied; otherwise the operation at that place of the rule makes the
output track. -/
inductive OutputBlock (rs : RuleSet) (t : Track) (input place output : Nat) :
    List Instruction → Prop where
  | unmatched (hrule : t.findRule rs = .ok none) :
      OutputBlock rs t input place output (opening keepCodec input output)
  | operation {rule : Rule} {operation : Operation} {block : List Instruction}
      (hrule : t.findRule rs = .ok (some rule))
      (hoperation : rule.operations[place]? = some operation)
      (hblock : OperationBlock t rule input output operation block) :
      OutputBlock rs t input place output block

/-- What the instructions for one output track come from. -/
inductive MadeBy (rs : RuleSet) (t : Track) (input place output : Nat) :
    List Instruction → Prop where
  | unmatched (hrule : t.findRule rs = .ok none) :
      MadeBy rs t input place output (copyStream input output)
  | operation {rule : Rule} {operation : Operation} {made : Output}
      (hrule : t.findRule rs = .ok (some rule))
      (hoperation : rule.operations[place]? = some operation)
      (hmade : operationOutput t rule operation input output = .ok made) :
      MadeBy rs t input place output made.instructions

theorem MadeBy.outputBlock {rs : RuleSet} {t : Track} {input place output : Nat}
    {block : List Instruction} (h : MadeBy rs t input place output block) :
    OutputBlock rs t input place output block := by
  cases h with
  | unmatched hrule => exact .unmatched hrule
  | operation hrule hoperation hmade =>
    exact .operation hrule hoperation (operationOutput_layout hmade)

/-- Where a rule applies that has an operation at the place, the instructions are those of the
operation. -/
theorem MadeBy.exists_made {rs : RuleSet} {t : Track} {input place output : Nat}
    {block : List Instruction} (h : MadeBy rs t input place output block) {rule : Rule}
    {operation : Operation} (hrule : t.findRule rs = .ok (some rule))
    (hoperation : rule.operations[place]? = some operation) :
    ∃ made, operationOutput t rule operation input output = .ok made ∧
      block = made.instructions := by
  cases h with
  | unmatched hnone =>
    rw [hrule] at hnone
    cases hnone
  | @operation _ _ made hfound hother hmade =>
    rw [hrule] at hfound
    cases hfound
    rw [hoperation] at hother
    cases hother
    exact ⟨made, hmade, rfl⟩

section Places

variable {rs : RuleSet} {input output : Nat} {t : Track} {rule : Rule} {operation : Operation}

theorem MadeAll.filter_output {operations : List Operation} {made : List Output}
    (h : MadeAll t rule input output operations made) {i : Nat}
    (hoperation : operations[i]? = some operation) :
    ∃ m, operationOutput t rule operation input (output + i) = .ok m ∧
      (made.flatMap Output.instructions).filter (·.output == ((output + i : Nat) : Int)) =
        m.instructions := by
  induction h generalizing i with
  | nil => simp at hoperation
  | @cons output first others m made hfirst rest ih =>
    have hblock := operationOutput_block hfirst
    rw [List.flatMap_cons]
    cases i with
    | zero =>
      rw [List.getElem?_cons_zero, Option.some.injEq] at hoperation
      exact ⟨m, hoperation ▸ hfirst, Blocks.filter_first hblock rest.blocks⟩
    | succ i =>
      rw [List.getElem?_cons_succ] at hoperation
      obtain ⟨m', hm', hfilter⟩ := ih hoperation
      rw [Blocks.filter_later hblock, show output + (i + 1) = output + 1 + i by omega]
      exact ⟨m', hm', hfilter⟩

theorem Decided.filter_output {made : TrackPlan} (h : Decided rs input output t made) {i k : Nat}
    (hk : made.decision.outputs[i]? = some k) :
    MadeBy rs t input i k (made.instructions.filter (·.output == (k : Int))) := by
  cases h with
  | unmatched hrule =>
    rw [List.getElem?_singleton] at hk
    split at hk
    · cases hk
      rw [(copyStream_block input output).filter_output_self]
      exact .unmatched hrule
    · cases hk
  | dropped => cases hk
  | @applied rule made hrule hoperations hmade =>
    obtain ⟨hi, houtput⟩ := List.getElem?_eq_some_iff.1 hk
    rw [List.length_range', hmade.length_eq] at hi
    rw [List.getElem_range', Nat.one_mul] at houtput
    have hoperation := List.getElem?_eq_getElem hi
    obtain ⟨m, hm, hfilter⟩ := hmade.filter_output hoperation
    rw [houtput] at hm hfilter
    rw [hfilter]
    exact .operation hrule hoperation hm

/-- In a row of tracks, the instructions for an output track are those that one track gets for it:
the track at the place of the decision that owns the output track. -/
theorem DecidedAll.filter_output {tracks : List Track} {made : List TrackPlan}
    (h : DecidedAll rs input output tracks made) {j i k : Nat} {d : Decision}
    (ht : tracks[j]? = some t) (hd : (made.map TrackPlan.decision)[j]? = some d)
    (hk : d.outputs[i]? = some k) :
    MadeBy rs t (input + j) i k
      ((made.flatMap TrackPlan.instructions).filter (·.output == (k : Int))) := by
  rw [List.getElem?_map, Option.map_eq_some_iff] at hd
  obtain ⟨m, hm, rfl⟩ := hd
  obtain ⟨first, hdecided, hinstructions⟩ := h.exists_decided ht hm
  rw [hinstructions k (List.mem_of_getElem? hk)]
  exact hdecided.filter_output hk

end Places

/-! ## Where an instruction comes from -/

section Sources

variable {rs : RuleSet} {input output : Nat} {t : Track} {i : Instruction}

theorem MadeAll.exists_of_mem {rule : Rule} {operations : List Operation} {made : List Output}
    (h : MadeAll t rule input output operations made) {m : Output} (hm : m ∈ made) :
    ∃ (place : Nat) (operation : Operation) (k : Nat), operations[place]? = some operation ∧
      operationOutput t rule operation input k = .ok m := by
  induction h with
  | nil => cases hm
  | @cons output operation operations first others hfirst rest ih =>
    rcases List.mem_cons.1 hm with rfl | hm
    · exact ⟨0, operation, output, rfl, hfirst⟩
    · obtain ⟨place, other, k, hplace, hmade⟩ := ih hm
      exact ⟨place + 1, other, k, hplace, hmade⟩

theorem Decided.exists_madeBy {made : TrackPlan} (h : Decided rs input output t made)
    (hi : i ∈ made.instructions) :
    ∃ place k block, MadeBy rs t input place k block ∧ i ∈ block := by
  cases h with
  | unmatched hrule => exact ⟨0, output, _, .unmatched hrule, hi⟩
  | dropped => cases hi
  | applied hrule hoperations hmade =>
    obtain ⟨m, hm, hi⟩ := List.mem_flatMap.1 hi
    obtain ⟨place, operation, k, hplace, hm⟩ := hmade.exists_of_mem hm
    exact ⟨place, k, _, .operation hrule hplace hm, hi⟩

theorem DecidedAll.exists_madeBy {tracks : List Track} {made : List TrackPlan}
    (h : DecidedAll rs input output tracks made)
    (hi : i ∈ made.flatMap TrackPlan.instructions) :
    ∃ t ∈ tracks, ∃ source place k block, MadeBy rs t source place k block ∧ i ∈ block := by
  induction h with
  | nil => cases hi
  | @cons input output t tracks made others first rest ih =>
    rw [List.flatMap_cons, List.mem_append] at hi
    rcases hi with hi | hi
    · exact ⟨t, List.mem_cons_self, input, first.exists_madeBy hi⟩
    · obtain ⟨t', ht', hmade⟩ := ih hi
      exact ⟨t', List.mem_cons_of_mem t ht', hmade⟩

/-- Every instruction of a plan is made for an output track of one of the tracks. -/
theorem synthesize_madeBy {tracks others : List Track} {plan : Plan}
    (hplan : (synthesize tracks rs others).outcome = .ok plan) (hi : i ∈ plan.instructions) :
    ∃ t ∈ tracks, ∃ source place k block, MadeBy rs t source place k block ∧ i ∈ block := by
  obtain ⟨made, hmade, -, ⟨-, hnone⟩ | ⟨passthrough, -, rfl⟩⟩ := synthesize_eq_ok hplan
  · rw [hnone] at hi
    cases hi
  · exact hmade.exists_madeBy hi

end Sources

/-! ## The layout of a plan -/

/-- A plan that changes something is made of the instructions for its output tracks, one output
track after another.  Each output track has a place in the decision about one track, and its
instructions are the block for that place. -/
theorem synthesize_layout {tracks others : List Track} {rs : RuleSet} {plan : Plan}
    (hplan : (synthesize tracks rs others).outcome = .ok plan) (hchanged : plan.changed = true) :
    plan.instructions = (List.range plan.outputCount).flatMap
      (fun (k : Nat) => plan.forOutput k) ∧
    (∀ k < plan.outputCount, ∃ (j i : Nat) (t : Track) (d : Decision), tracks[j]? = some t ∧
      plan.decisions[j]? = some d ∧ d.outputs[i]? = some k) ∧
    ∀ (j i k : Nat) (t : Track) (d : Decision), tracks[j]? = some t →
      plan.decisions[j]? = some d → d.outputs[i]? = some k →
        OutputBlock rs t j i k (plan.forOutput k) ∧
          ((plan.forOutput k).map Instruction.kind).Nodup := by
  obtain ⟨made, passthrough, hmade, -, rfl⟩ := synthesize_changed hplan hchanged
  have hcount := hmade.blocks.countP_mapSource
  refine ⟨?_, ?_, ?_⟩
  · have hrow := hmade.blocks.eq_flatMap
    rw [← hcount, ← List.range_eq_range'] at hrow
    exact hrow
  · intro k hk
    have hmem : k ∈ (made.map TrackPlan.decision).flatMap Decision.outputs := by
      rw [hmade.outputs_eq, ← hcount, ← List.range_eq_range', List.mem_range]
      exact hk
    obtain ⟨d, hd, hk⟩ := List.mem_flatMap.1 hmem
    obtain ⟨j, hj⟩ := List.mem_iff_getElem?.1 hd
    obtain ⟨i, hi⟩ := List.mem_iff_getElem?.1 hk
    obtain ⟨hlt, -⟩ := List.getElem?_eq_some_iff.1 hj
    rw [List.length_map, hmade.length_eq] at hlt
    exact ⟨j, i, tracks[j], d, List.getElem?_eq_getElem hlt, hj, hi⟩
  · intro j i k t d ht hd hk
    have hmadeBy := hmade.filter_output ht hd hk
    rw [Nat.zero_add] at hmadeBy
    refine ⟨hmadeBy.outputBlock, ?_⟩
    obtain ⟨n, hn, hsource⟩ := hmade.source_of_owned (List.mem_of_getElem? hd)
      (List.mem_of_getElem? hk)
    have hblock := hmade.blocks.filter_output hsource
    rw [← hn] at hblock
    exact hblock.kinds_nodup

/-- The last output track is made by the second operation for the last track. -/
theorem synthesize_layout_mixed :
    ∃ (plan : Plan) (d : Decision), (synthesize mixedTracks mixedRules []).outcome = .ok plan ∧
      plan.changed = true ∧ plan.outputCount = 3 ∧
      plan.decisions[2]? = some d ∧ d.outputs[1]? = some 2 ∧
      plan.instructions = (List.range 3).flatMap (fun (k : Nat) => plan.forOutput k) ∧
      OutputBlock mixedRules mixedTracks[2] 2 1 2 (plan.forOutput 2) ∧
      ((plan.forOutput 2).map Instruction.kind).Nodup := by
  have hseen : ((synthesize mixedTracks mixedRules []).outcome.toOption.map fun plan =>
      (plan.changed, plan.outputCount, plan.decisions[2]?.map Decision.outputs)) =
        some (true, 3, some [1, 2]) := by
    decide +kernel
  obtain ⟨plan, hplan, hparts⟩ := exists_eq_ok_of_map hseen
  obtain ⟨hchanged, hparts⟩ := Prod.mk.inj hparts
  obtain ⟨hcount, hdecision⟩ := Prod.mk.inj hparts
  obtain ⟨d, hd, houtputs⟩ := Option.map_eq_some_iff.1 hdecision
  have houtput : d.outputs[1]? = some 2 := by
    rw [houtputs]
    rfl
  obtain ⟨hrow, -, hblocks⟩ := synthesize_layout hplan hchanged
  obtain ⟨hblock, hnodup⟩ := hblocks 2 1 2 mixedTracks[2] d rfl hd houtput
  exact ⟨plan, d, hplan, hchanged, hcount, hd, houtput, hcount ▸ hrow, hblock, hnodup⟩

end AudioPlan
