import AudioPlan.Proofs.Plan.Steps

/-!
# Blocks of instructions

The instructions of a plan come in blocks, one for each output track.  A block maps the source of
the track, sets its codec, and goes on with other settings in a fixed order, each at most once.

* `Sets` is the part of a block behind the codec, `Block` is a whole block, and `Blocks` is a row of
  blocks for consecutive output tracks;
* `operationOutput_block` and `Decided.blocks` say that the synthesis makes nothing else;
* `Blocks.filter_output` picks one block out of a row.
-/

namespace AudioPlan

/-! ## Settings of one output track -/

/-- Instructions for one output track whose kinds come in a given order, each at most once. -/
structure Sets (output : Nat) (kinds : List InstructionKind) (settings : List Instruction) :
    Prop where
  output_eq : ∀ i ∈ settings, i.output = output
  sublist : (settings.map Instruction.kind).Sublist kinds

theorem Sets.nil (output : Nat) (kinds : List InstructionKind) : Sets output kinds [] :=
  ⟨by simp, by simp⟩

theorem Sets.single (output : Nat) (kind : InstructionKind) (value : Value) :
    Sets output [kind] [{ kind := kind, output := output, value := value }] :=
  ⟨by simp, by simp⟩

theorem Sets.append {output : Nat} {kinds others : List InstructionKind}
    {settings more : List Instruction} (h : Sets output kinds settings)
    (hmore : Sets output others more) : Sets output (kinds ++ others) (settings ++ more) := by
  constructor
  · intro i hi
    rcases List.mem_append.1 hi with hi | hi
    · exact h.output_eq i hi
    · exact hmore.output_eq i hi
  · rw [List.map_append]
    exact h.sublist.append hmore.sublist

theorem Sets.mono {output : Nat} {kinds others : List InstructionKind}
    {settings : List Instruction} (h : Sets output kinds settings)
    (hkinds : kinds.Sublist others) : Sets output others settings :=
  ⟨h.output_eq, h.sublist.trans hkinds⟩

theorem Sets.filter_kind_eq_nil {output : Nat} {kinds : List InstructionKind}
    {settings : List Instruction} (h : Sets output kinds settings) {kind : InstructionKind}
    (hkind : kind ∉ kinds) : settings.filter (·.kind == kind) = [] := by
  rw [List.filter_eq_nil_iff]
  intro i hi heq
  have hmem : i.kind ∈ kinds := h.sublist.subset (List.mem_map_of_mem hi)
  rw [beq_iff_eq.1 heq] at hmem
  exact hkind hmem

theorem titleOutput_sets {t : Track} {rule : Rule} {operation : Operation} {output : Nat}
    {channels bitRate : Field (Option Int)} {made : List Instruction × List String}
    (h : titleOutput t rule operation output channels bitRate = .ok made) :
    Sets output [.setTitle] made.1 := by
  unfold titleOutput at h
  split at h
  · cases h
    exact .nil output _
  · cases h
    exact .nil output _
  · obtain ⟨title, -, h⟩ := bind_eq_ok.1 h
    cases h
    exact .single output _ _

theorem flagsOutput_sets (operation : Operation) (output : Nat) :
    Sets output [.setDisposition] (flagsOutput operation output).1 := by
  unfold flagsOutput
  split
  · exact .nil output _
  · exact .single output _ _

theorem resolvedOutput_sets {kind : InstructionKind} {unit : String} {output : Nat}
    {r : Resolved (Field (Option Int))} {made : List Instruction × List String}
    (h : resolvedOutput kind unit output r = .ok made) : Sets output [kind] made.1 := by
  rw [resolvedOutput] at h
  split at h
  · obtain ⟨text, -, h⟩ := bind_eq_ok.1 h
    cases h
    exact .single output _ _
  · cases h
    exact .nil output _

theorem filterOutput_sets (o : TranscodeOperation) (output : Nat) :
    Sets output [.setFilter] (filterOutput o output).1 := by
  unfold filterOutput
  split
  · exact .nil output _
  · exact .nil output _
  · exact .single output _ _

/-! ## Blocks -/

/-- The kinds of settings behind the codec, in their order. -/
def settingKinds : List InstructionKind :=
  [.setChannels, .setBitRate, .setLanguage, .setTitle, .setDisposition, .setFilter]

/-- The instructions for one output track: its source, its codec, and other settings. -/
inductive Block (input output : Nat) : List Instruction → Prop where
  | mk (codec : String) {settings : List Instruction}
      (hsettings : Sets output settingKinds settings) :
      Block input output
        ({ kind := .mapSource, output := output, input := some (input : Int) } ::
          { kind := .setCodec, output := output, value := .text codec } :: settings)

theorem copyOutput_block {t : Track} {rule : Rule} {o : CopyOperation} {input output : Nat}
    {made : Output} (h : copyOutput t rule o input output = .ok made) :
    Block input output made.instructions := by
  obtain ⟨⟨title, titleNotes⟩, htitle, h⟩ := bind_eq_ok.1 h
  cases h
  have hsets := (titleOutput_sets htitle).append (flagsOutput_sets (.copy o) output)
  exact .mk keepCodec (hsets.mono (by decide))

theorem transcodeOutput_block {t : Track} {rule : Rule} {o : TranscodeOperation}
    {input output : Nat} {made : Output}
    (h : transcodeOutput t rule o input output = .ok made) :
    Block input output made.instructions := by
  obtain ⟨codec, -, h⟩ := bind_eq_ok.1 h
  obtain ⟨channels, -, h⟩ := bind_eq_ok.1 h
  obtain ⟨⟨setChannels, channelNotes⟩, hchannels, h⟩ := bind_eq_ok.1 h
  obtain ⟨bitRate, -, h⟩ := bind_eq_ok.1 h
  obtain ⟨⟨setBitRate, bitRateNotes⟩, hbitRate, h⟩ := bind_eq_ok.1 h
  obtain ⟨⟨title, titleNotes⟩, htitle, h⟩ := bind_eq_ok.1 h
  cases h
  have hsets := (((((resolvedOutput_sets hchannels).append
    (resolvedOutput_sets hbitRate)).append
    (Sets.single output .setLanguage t.languageOrUnd.textValue)).append
    (titleOutput_sets htitle)).append
    (flagsOutput_sets (.transcode o) output)).append (filterOutput_sets o output)
  exact .mk codec hsets

/-- An operation makes one block. -/
theorem operationOutput_block {t : Track} {rule : Rule} {operation : Operation}
    {input output : Nat} {made : Output}
    (h : operationOutput t rule operation input output = .ok made) :
    Block input output made.instructions := by
  cases operation with
  | copy o => exact copyOutput_block h
  | transcode o => exact transcodeOutput_block h

theorem copyStream_block (input output : Nat) : Block input output (copyStream input output) :=
  .mk keepCodec (.nil output settingKinds)

/-- All instructions of a block are for its output track. -/
theorem Block.output_eq {input output : Nat} {block : List Instruction}
    (h : Block input output block) : ∀ i ∈ block, i.output = output := by
  cases h with
  | mk codec hsettings =>
    intro i hi
    rcases List.mem_cons.1 hi with rfl | hi
    · rfl
    · rcases List.mem_cons.1 hi with rfl | hi
      · rfl
      · exact hsettings.output_eq i hi

/-- No two instructions of a block are of the same kind. -/
theorem Block.kinds_nodup {input output : Nat} {block : List Instruction}
    (h : Block input output block) : (block.map Instruction.kind).Nodup := by
  cases h with
  | mk codec hsettings =>
    have hall : (.mapSource :: .setCodec :: settingKinds : List InstructionKind).Nodup := by decide
    exact hall.sublist ((hsettings.sublist.cons_cons _).cons_cons _)

theorem Block.filter_output_self {input output : Nat} {block : List Instruction}
    (h : Block input output block) :
    block.filter (·.output == (output : Int)) = block := by
  rw [List.filter_eq_self]
  intro i hi
  rw [h.output_eq i hi, beq_self_eq_true]

theorem Block.filter_output_ne {input output : Nat} {block : List Instruction}
    (h : Block input output block) {k : Nat} (hne : output ≠ k) :
    block.filter (·.output == (k : Int)) = [] := by
  rw [List.filter_eq_nil_iff]
  intro i hi heq
  rw [h.output_eq i hi, beq_iff_eq] at heq
  omega

/-- The only instruction of a block that maps a source is the first one. -/
theorem Block.filter_mapSource {input output : Nat} {block : List Instruction}
    (h : Block input output block) :
    block.filter (·.kind == .mapSource) =
      [{ kind := .mapSource, output := output, input := some (input : Int) }] := by
  cases h with
  | @mk codec settings hsettings =>
    have hnone : settings.filter (·.kind == .mapSource) = [] :=
      hsettings.filter_kind_eq_nil (by decide)
    simp [hnone]

/-! ## Rows of blocks -/

/-- A row of blocks for consecutive output tracks, with the source of each. -/
inductive Blocks : (output : Nat) → (sources : List Nat) → List Instruction → Prop where
  | nil (output : Nat) : Blocks output [] []
  | cons {output input : Nat} {sources : List Nat} {block others : List Instruction}
      (first : Block input output block) (rest : Blocks (output + 1) sources others) :
      Blocks output (input :: sources) (block ++ others)

theorem Blocks.append {output : Nat} {sources more : List Nat} {row others : List Instruction}
    (h : Blocks output sources row) (hmore : Blocks (output + sources.length) more others) :
    Blocks output (sources ++ more) (row ++ others) := by
  induction h with
  | nil => simpa using hmore
  | @cons output input sources block row first rest ih =>
    have hlength : output + (input :: sources).length = output + 1 + sources.length := by
      rw [List.length_cons]
      omega
    rw [hlength] at hmore
    rw [List.cons_append, List.append_assoc]
    exact .cons first (ih hmore)

/-- The instructions of a row are for its output tracks. -/
theorem Blocks.output_lt {output : Nat} {sources : List Nat} {row : List Instruction}
    (h : Blocks output sources row) :
    ∀ i ∈ row, (output : Int) ≤ i.output ∧ i.output < (output + sources.length : Nat) := by
  induction h with
  | nil => simp
  | cons first rest ih =>
    intro i hi
    rw [List.length_cons]
    rcases List.mem_append.1 hi with hi | hi
    · have houtput := first.output_eq i hi
      omega
    · have hbounds := ih i hi
      omega

/-- A row has no instruction for an output track before its first or behind its last one. -/
theorem Blocks.filter_eq_nil {output : Nat} {sources : List Nat} {row : List Instruction}
    (h : Blocks output sources row) {k : Nat} (hk : k < output ∨ output + sources.length ≤ k) :
    row.filter (·.output == (k : Int)) = [] := by
  rw [List.filter_eq_nil_iff]
  intro i hi heq
  have hbounds := h.output_lt i hi
  rw [beq_iff_eq] at heq
  omega

theorem Blocks.filter_first {input output : Nat} {sources : List Nat}
    {block others : List Instruction} (first : Block input output block)
    (rest : Blocks (output + 1) sources others) :
    (block ++ others).filter (·.output == (output : Int)) = block := by
  have hothers := rest.filter_eq_nil (.inl (Nat.lt_succ_self output))
  rw [List.filter_append, first.filter_output_self, hothers, List.append_nil]

theorem Blocks.filter_later {input output : Nat} {block : List Instruction}
    (first : Block input output block) (others : List Instruction) (k : Nat) :
    (block ++ others).filter (·.output == ((output + (k + 1) : Nat) : Int)) =
      others.filter (·.output == ((output + 1 + k : Nat) : Int)) := by
  rw [List.filter_append, first.filter_output_ne (by omega), List.nil_append,
    show output + (k + 1) = output + 1 + k by omega]

/-- The instructions for one output track of a row are its block. -/
theorem Blocks.filter_output {output : Nat} {sources : List Nat} {row : List Instruction}
    (h : Blocks output sources row) {k source : Nat} (hk : sources[k]? = some source) :
    Block source (output + k) (row.filter (·.output == ((output + k : Nat) : Int))) := by
  induction h generalizing k with
  | nil => simp at hk
  | @cons output input sources block others first rest ih =>
    cases k with
    | zero =>
      have hinput : input = source := by simpa using hk
      rw [Nat.add_zero, Blocks.filter_first first rest, ← hinput]
      exact first
    | succ k =>
      have hsource : sources[k]? = some source := by simpa using hk
      rw [Blocks.filter_later first, show output + (k + 1) = output + 1 + k by omega]
      exact ih hsource

/-- A row is made of the instructions for each of its output tracks, one after another. -/
theorem Blocks.eq_flatMap {output : Nat} {sources : List Nat} {row : List Instruction}
    (h : Blocks output sources row) :
    row = (List.range' output sources.length).flatMap fun (k : Nat) =>
      row.filter (·.output == (k : Int)) := by
  induction h with
  | nil => rfl
  | @cons output input sources block others first rest ih =>
    rw [List.length_cons, List.range'_succ, List.flatMap_cons, Blocks.filter_first first rest]
    congr 1
    have hothers : ∀ k ∈ List.range' (output + 1) sources.length,
        (block ++ others).filter (·.output == (k : Int)) =
          others.filter (·.output == (k : Int)) := by
      intro k hk
      rw [List.mem_range'_1] at hk
      rw [List.filter_append, first.filter_output_ne (by omega), List.nil_append]
    rw [List.flatMap_def, List.map_congr_left hothers, ← List.flatMap_def]
    exact ih

/-- A row maps as many sources as it has blocks. -/
theorem Blocks.countP_mapSource {output : Nat} {sources : List Nat} {row : List Instruction}
    (h : Blocks output sources row) : row.countP (·.kind == .mapSource) = sources.length := by
  induction h with
  | nil => rfl
  | cons first rest ih =>
    rw [List.countP_append, ih, List.countP_eq_length_filter, first.filter_mapSource,
      List.length_singleton, List.length_cons]
    omega

/-! ## The blocks of a synthesis -/

/-- The operations of a rule make a row of blocks with the same source. -/
theorem MadeAll.blocks {t : Track} {rule : Rule} {input output : Nat}
    {operations : List Operation} {made : List Output}
    (h : MadeAll t rule input output operations made) :
    Blocks output (List.replicate made.length input) (made.flatMap Output.instructions) := by
  induction h with
  | nil output => exact .nil output
  | cons first rest ih =>
    rw [List.length_cons, List.replicate_succ, List.flatMap_cons]
    exact .cons (operationOutput_block first) ih

/-- The sources of the output tracks that decisions own. -/
def sourcesOf (decisions : List Decision) : List Nat :=
  decisions.flatMap fun d => List.replicate d.outputs.length d.input

/-- A track makes one block for each output track that its decision owns. -/
theorem Decided.blocks {rs : RuleSet} {input output : Nat} {t : Track} {made : TrackPlan}
    (h : Decided rs input output t made) :
    Blocks output (sourcesOf [made.decision]) made.instructions := by
  rw [sourcesOf, List.flatMap_singleton]
  cases h with
  | unmatched hrule =>
    rw [← List.append_nil (copyStream input output)]
    exact .cons (copyStream_block input output) (.nil _)
  | dropped hrule hoperations => exact .nil output
  | applied hrule hoperations hmade =>
    rw [List.length_range']
    exact hmade.blocks

/-- All tracks together make a row of blocks. -/
theorem DecidedAll.blocks {rs : RuleSet} {input output : Nat} {tracks : List Track}
    {made : List TrackPlan} (h : DecidedAll rs input output tracks made) :
    Blocks output (sourcesOf (made.map TrackPlan.decision))
      (made.flatMap TrackPlan.instructions) := by
  induction h with
  | nil input output => exact .nil output
  | @cons input output t tracks made others first rest ih =>
    have hlength : (sourcesOf [made.decision]).length = made.decision.outputs.length := by
      simp [sourcesOf]
    have hblocks := first.blocks.append (hlength ▸ ih)
    simpa [sourcesOf] using hblocks

end AudioPlan
