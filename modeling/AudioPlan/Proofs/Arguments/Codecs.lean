import AudioPlan.Proofs.Arguments.Streams
import AudioPlan.Proofs.Outcome.Consistency
import AudioPlan.Proofs.Plan.Ceilings

/-!
# Output tracks without a codec

A command sets the codec of every output track, but the codec may be an empty text, which no encoder
has for a name.  It is empty exactly where a transcode operation keeps the codec of a track whose
encoding was not identified (`synthesize_codec_eq_empty_iff`).

* `targetCodec_eq_empty_iff` is about one operation, `OutputBlock.codec` about the block of one
  output track;
* `Plan.LacksCodec` names the output tracks, and `Plan.settings_codec` says that those of a plan are
  the ones that are set an empty codec;
* `pair_infix_tokens_iff` finds an option without a value among the arguments.
-/

namespace AudioPlan

/-! ## Operations -/

/-- The codec of a track as it is reported: a name, or none where it was not identified. -/
def Track.CodecReported (t : Track) : Prop :=
  ∃ codec, t.codec = .known codec ∧ codec ≠ some ""

/-- A transcode operation that passed the checks names a codec, so it aims at none only if it keeps
that of a track that has none. -/
theorem targetCodec_eq_empty_iff {t : Track} (ht : t.CodecReported) {o : TranscodeOperation}
    (ho : o.Normal) {codec : String} (h : targetCodec t o = .ok codec) :
    codec = "" ↔ Text.lowerText o.codec = keepCodec ∧ t.codec = .known none := by
  obtain ⟨reported, hreported, hne⟩ := ht
  unfold targetCodec at h
  split at h
  · rename_i hkept
    rw [beq_iff_eq] at hkept
    rw [Track.codecText, hreported] at h
    cases h
    cases reported with
    | none => simp [hkept, hreported]
    | some name =>
      have hname : name ≠ "" := fun hempty => hne (congrArg some hempty)
      simp [hname, hreported]
  · rename_i hkept
    rw [beq_iff_eq] at hkept
    cases h
    exact iff_of_false ho.codec fun h => hkept h.1

/-- The block of an operation sets one codec. -/
theorem OperationBlock.codec {t : Track} {rule : Rule} {input output : Nat} {operation : Operation}
    {block : List Instruction} (h : OperationBlock t rule input output operation block)
    (ht : t.CodecReported) (hnormal : ∀ o, operation = .transcode o → o.Normal) :
    ∃ codec, valuesOf .setCodec block = [.text codec] ∧
      (codec = "" ↔ ∃ o, operation = .transcode o ∧ Text.lowerText o.codec = keepCodec ∧
        t.codec = .known none) := by
  cases h with
  | copy htitle =>
    refine ⟨keepCodec, ?_, ?_⟩
    · simp [valuesOf_append, valuesOf_setting, valuesOf_opening]
    · simp [keepCodec]
  | @transcode o codec _ _ _ hcodec hchannels hbitRate htitle =>
    refine ⟨codec, ?_, ?_⟩
    · simp [valuesOf_append, valuesOf_setting, valuesOf_opening]
    · rw [targetCodec_eq_empty_iff ht (hnormal o rfl) hcodec]
      simp

/-! ## Output tracks -/

/-- The rule that applies to a track has at a place an operation that keeps the codec of the track,
but the encoding of the track was not identified. -/
def Track.LacksCodecAt (t : Track) (rs : RuleSet) (place : Nat) : Prop :=
  ∃ rule o, t.findRule rs = .ok (some rule) ∧ rule.operations[place]? = some (.transcode o) ∧
    Text.lowerText o.codec = keepCodec ∧ t.codec = .known none

/-- An output track that a plan makes by keeping the codec of a track whose encoding was not
identified. -/
def Plan.LacksCodec (plan : Plan) (rs : RuleSet) (tracks : List Track) (k : Nat) : Prop :=
  ∃ t rule o, plan.Makes rs tracks k t rule (.transcode o) ∧
    Text.lowerText o.codec = keepCodec ∧ t.codec = .known none

section Plans

variable {d : Value} {rs : RuleSet} {tracks others : List Track} {plan : Plan}

/-- The block at a place of a decision sets one codec. -/
theorem OutputBlock.codec (hvalid : validate d = .ok rs) {t : Track} (ht : t.CodecReported)
    {input place output : Nat} {block : List Instruction}
    (h : OutputBlock rs t input place output block) :
    ∃ codec, valuesOf .setCodec block = [.text codec] ∧
      (codec = "" ↔ t.LacksCodecAt rs place) := by
  unfold Track.LacksCodecAt
  cases h with
  | unmatched hrule =>
    refine ⟨keepCodec, by rw [valuesOf_opening]; rfl, ?_⟩
    simp [hrule, keepCodec]
  | @operation rule operation _ hrule hoperation hblock =>
    have hnormal : ∀ o, operation = .transcode o → o.Normal := by
      rintro o rfl
      exact (validate_normal hvalid (Track.mem_of_findRule hrule)).operations o
        (List.mem_of_getElem? hoperation)
    obtain ⟨codec, hcodec, hempty⟩ := hblock.codec ht hnormal
    refine ⟨codec, hcodec, hempty.trans ?_⟩
    simp [hrule, hoperation]

section Made

variable {k : Nat} {t : Track} {rule : Rule} {operation : Operation}
  (h : plan.Makes rs tracks k t rule operation)
  (hplan : (synthesize tracks rs others).outcome = .ok plan)

include h hplan

/-- A plan that makes something by an operation changes something. -/
theorem Plan.Makes.changed : plan.changed = true := by
  obtain ⟨j, d, i, ht, hd, hrule, hoperation, hk⟩ := h
  exact (synthesize_changed_iff hplan).2
    ⟨t, List.mem_of_getElem? ht, (Track.isSome_findRule_iff hrule).1 rfl⟩

theorem Plan.Makes.lt_outputCount : k < plan.outputCount := by
  obtain ⟨-, -, n, hn, hcount⟩ := synthesize_positions hplan
  obtain ⟨rfl, -⟩ := hcount (h.changed hplan)
  obtain ⟨j, d, i, ht, hd, hrule, hoperation, hk⟩ := h
  rw [← List.mem_range, ← hn]
  exact List.mem_flatMap.2 ⟨d, List.mem_of_getElem? hd, List.mem_of_getElem? hk⟩

end Made

/-- Every output track of a plan is set one codec, an empty one exactly where the track that it is
made from has none to keep. -/
theorem Plan.settings_codec (hvalid : validate d = .ok rs) (htracks : ∀ t ∈ tracks, t.CodecReported)
    (hplan : (synthesize tracks rs others).outcome = .ok plan) (hchanged : plan.changed = true)
    {k : Nat} (hk : k < plan.outputCount) :
    ∃ codec, plan.settings k .setCodec = [.text codec] ∧
      (codec = "" ↔ plan.LacksCodec rs tracks k) := by
  obtain ⟨-, hplaces, hblocks⟩ := synthesize_layout hplan hchanged
  have hcodecs : ∀ (j i : Nat) (t : Track) (d : Decision), tracks[j]? = some t →
      plan.decisions[j]? = some d → d.outputs[i]? = some k →
        ∃ codec, plan.settings k .setCodec = [.text codec] ∧
          (codec = "" ↔ t.LacksCodecAt rs i) := by
    intro j i t d ht hd hk
    exact (hblocks j i k t d ht hd hk).1.codec hvalid (htracks t (List.mem_of_getElem? ht))
  obtain ⟨j, i, t, d, ht, hd, hk⟩ := hplaces k hk
  obtain ⟨codec, hcodec, hempty⟩ := hcodecs j i t d ht hd hk
  refine ⟨codec, hcodec, ?_⟩
  constructor
  · intro h
    obtain ⟨rule, o, hrule, hoperation, hkept, hnone⟩ := hempty.1 h
    exact ⟨t, rule, o, ⟨j, d, i, ht, hd, hrule, hoperation, hk⟩, hkept, hnone⟩
  · -- The track may be found at another place, but what is set for the output track is the same.
    rintro ⟨t', rule, o, ⟨j', d', i', ht', hd', hrule, hoperation, hk'⟩, hkept, hnone⟩
    obtain ⟨codec', hcodec', hempty'⟩ := hcodecs j' i' t' d' ht' hd' hk'
    rw [hcodec, List.cons.injEq, Value.text.injEq] at hcodec'
    rw [hcodec'.1]
    exact hempty'.2 ⟨rule, o, hrule, hoperation, hkept, hnone⟩

/-- A plan with an instruction changes something, and the instruction is for one of its output
tracks. -/
theorem Plan.exists_output {i : Instruction}
    (hplan : (synthesize tracks rs others).outcome = .ok plan) (hi : i ∈ plan.instructions) :
    plan.changed = true ∧ ∃ k < plan.outputCount, i.output = (k : Int) := by
  have hchanged : plan.changed = true := by
    cases hsame : plan.changed with
    | true => rfl
    | false =>
      rw [(synthesize_unchanged hplan hsame).1] at hi
      cases hi
  refine ⟨hchanged, ?_⟩
  obtain ⟨hrow, -⟩ := synthesize_layout hplan hchanged
  rw [hrow, List.mem_flatMap] at hi
  obtain ⟨k, hk, hi⟩ := hi
  rw [Plan.forOutput, List.mem_filter, beq_iff_eq] at hi
  exact ⟨k, List.mem_range.1 hk, hi.2⟩

theorem Plan.mem_settings {k : Nat} {kind : InstructionKind} {v : Value} :
    v ∈ plan.settings k kind ↔
      ∃ i ∈ plan.instructions, i.output = (k : Int) ∧ i.kind = kind ∧ i.value = v := by
  simp only [Plan.settings, valuesOf, Plan.forOutput, List.mem_map, List.mem_filter, beq_iff_eq,
    and_assoc]

end Plans

/-! ## Arguments -/

/-- The arguments for a plan can be written, and those for audio are the tokens of its
instructions. -/
theorem Plan.exists_arguments {tracks others : List Track} {rs : RuleSet} {plan : Plan}
    (hplan : (synthesize tracks rs others).outcome = .ok plan) (marker : Option String) :
    ∃ arguments, plan.arguments marker = .ok arguments ∧
      arguments.audio = plan.instructions.flatMap Instruction.tokens := by
  cases hchanged : plan.changed with
  | true =>
    obtain ⟨made, passthrough, -, hpassthrough, rfl⟩ := synthesize_changed hplan hchanged
    have hpasses := passthroughFrom_passes hpassthrough
    exact Plan.arguments_eq_ok rfl hpasses marker
  | false =>
    refine ⟨{}, Plan.arguments_of_unchanged hchanged marker, ?_⟩
    rw [(synthesize_unchanged hplan hchanged).1]
    rfl

theorem Instruction.exists_tokens (i : Instruction) :
    ∃ option value, option ≠ "" ∧ i.tokens = [option, value] := by
  rcases i.tokens_cases with ⟨-, htokens⟩ | ⟨a, -, htokens⟩
  · exact ⟨_, _, by decide, htokens⟩
  · refine ⟨_, _, ?_, htokens⟩
    cases a <;> simp [Attribute.option, String.append_eq_empty_iff]

/-- An option with an empty text behind it belongs to one instruction: no option is empty, so the
text is its value. -/
theorem pair_infix_tokens_iff {instructions : List Instruction} {option : String} :
    [option, ""] <:+: instructions.flatMap Instruction.tokens ↔
      ∃ i ∈ instructions, i.tokens = [option, ""] := by
  induction instructions with
  | nil => simp
  | cons i instructions ih =>
    have hlater : ∀ value : String,
        ¬ [option, ""] <+: value :: instructions.flatMap Instruction.tokens := by
      intro value h
      rw [List.cons_prefix_cons] at h
      cases instructions with
      | nil => simp at h
      | cons j instructions =>
        obtain ⟨other, _, hne, hj⟩ := j.exists_tokens
        rw [List.flatMap_cons, hj, List.cons_append, List.cons_prefix_cons] at h
        exact hne h.2.1.symm
    obtain ⟨first, value, -, hi⟩ := i.exists_tokens
    rw [List.flatMap_cons, hi, List.cons_append, List.singleton_append, List.infix_cons_iff,
      List.infix_cons_iff, or_iff_right (hlater value), ih]
    simp [hi, eq_comm]

/-- The option for the codec of an output track comes from the instruction that sets it. -/
theorem Instruction.tokens_eq_codec_iff {i : Instruction} {n : Nat} (houtput : i.output = (n : Int))
    {k : Nat} {text : String} :
    i.tokens = ["-c:a:" ++ toString k, text] ↔
      i.kind = .setCodec ∧ n = k ∧ i.value.toText = text := by
  have hcodec : ∀ text, readDirective? ("-c:a:" ++ toString k) text = some (.set .codec k text) :=
    fun text => readDirective?_option .codec k text
  constructor
  · intro h
    rcases i.tokens_cases with ⟨-, htokens⟩ | ⟨a, hkind, htokens⟩
    · rw [htokens] at h
      exact absurd (List.cons.inj h).1.symm
        (Attribute.codec.option_append_ne (by decide +kernel) _)
    · rw [htokens, houtput, List.cons.injEq, List.cons.injEq] at h
      obtain ⟨hoption, hvalue, -⟩ := h
      have hread := readDirective?_option a n i.value.toText
      rw [hoption, hvalue, hcodec] at hread
      cases hread
      exact ⟨hkind, rfl, hvalue⟩
  · rintro ⟨hkind, rfl, rfl⟩
    rw [Instruction.tokens_of_kind (a := .codec) hkind, houtput]
    rfl

section Commands

variable {d : Value} {rs : RuleSet} {tracks others : List Track} {plan : Plan}
  (hvalid : validate d = .ok rs) (htracks : ∀ t ∈ tracks, t.CodecReported)
  (hplan : (synthesize tracks rs others).outcome = .ok plan)

include hvalid htracks hplan

/-- An instruction for a codec sets a text, which is empty exactly if the output track lacks one. -/
theorem Plan.codec_of_mem {i : Instruction} (hi : i ∈ plan.instructions)
    (hkind : i.kind = .setCodec) :
    ∃ (k : Nat) (codec : String), i.output = (k : Int) ∧ i.value = .text codec ∧
      (codec = "" ↔ plan.LacksCodec rs tracks k) := by
  obtain ⟨hchanged, k, hk, houtput⟩ := Plan.exists_output hplan hi
  obtain ⟨codec, hsettings, hempty⟩ := Plan.settings_codec hvalid htracks hplan hchanged hk
  have hmem : i.value ∈ plan.settings k .setCodec :=
    Plan.mem_settings.2 ⟨i, hi, houtput, hkind, rfl⟩
  rw [hsettings, List.mem_singleton] at hmem
  exact ⟨k, codec, houtput, hmem, hempty⟩

theorem Plan.LacksCodec.exists_mem {k : Nat} (h : plan.LacksCodec rs tracks k) :
    ∃ i ∈ plan.instructions, i.output = (k : Int) ∧ i.kind = .setCodec ∧ i.value = .text "" := by
  have hsettings : plan.settings k .setCodec = [.text ""] := by
    obtain ⟨t, rule, o, hmakes, hkept⟩ := h
    obtain ⟨codec, hcodec, hempty⟩ := Plan.settings_codec hvalid htracks hplan
      (hmakes.changed hplan) (hmakes.lt_outputCount hplan)
    rw [hcodec, hempty.2 ⟨t, rule, o, hmakes, hkept⟩]
  rw [← Plan.mem_settings, hsettings]
  exact List.mem_singleton_self _

end Commands

/-- An output track is set an empty codec exactly if a transcode operation keeps for it the codec of
a track whose encoding was not identified.  In the command an empty argument stands behind the
option for the codec of just these output tracks. -/
theorem synthesize_codec_eq_empty_iff {d : Value} {rs : RuleSet} (hvalid : validate d = .ok rs)
    {tracks others : List Track} (htracks : ∀ t ∈ tracks, t.CodecReported) {plan : Plan}
    (hplan : (synthesize tracks rs others).outcome = .ok plan) :
    (∀ i ∈ plan.instructions, i.kind = .setCodec → ∃ (k : Nat) (codec : String),
      i.output = (k : Int) ∧ i.value = .text codec ∧
        (codec = "" ↔ plan.LacksCodec rs tracks k)) ∧
    ∀ marker, ∃ arguments, plan.arguments marker = .ok arguments ∧
      ∀ k : Nat, ["-c:a:" ++ toString k, ""] <:+: arguments.audio ↔
        plan.LacksCodec rs tracks k := by
  refine ⟨fun i hi hkind => Plan.codec_of_mem hvalid htracks hplan hi hkind, fun marker => ?_⟩
  obtain ⟨arguments, harguments, haudio⟩ := Plan.exists_arguments hplan marker
  refine ⟨arguments, harguments, fun k => ?_⟩
  rw [haudio, pair_infix_tokens_iff]
  constructor
  · rintro ⟨i, hi, htokens⟩
    obtain ⟨-, n, -, houtput⟩ := Plan.exists_output hplan hi
    obtain ⟨hkind, rfl, hvalue⟩ := (Instruction.tokens_eq_codec_iff houtput).1 htokens
    obtain ⟨k, codec, hk, hcodec, hempty⟩ := Plan.codec_of_mem hvalid htracks hplan hi hkind
    rw [hcodec] at hvalue
    rw [houtput, Int.natCast_inj] at hk
    rw [hk]
    exact hempty.1 hvalue
  · intro hlacks
    obtain ⟨i, hi, houtput, hkind, hvalue⟩ := hlacks.exists_mem hvalid htracks hplan
    refine ⟨i, hi, (Instruction.tokens_eq_codec_iff houtput).2 ⟨hkind, rfl, ?_⟩⟩
    rw [hvalue]
    rfl

/-- Two tracks, of which the encoding of the first was not identified. -/
def halfKnownTracks : List Track :=
  [{ index := .known 1, channels := .known 2 },
   { index := .known 2, codec := .known (some "ac3"), channels := .known 2 }]

/-- Both tracks keep their codec, and the first has none. -/
theorem synthesize_codec_eq_empty_iff_half :
    ∃ plan arguments, validate anewDocument = .ok anewRules ∧
      (∀ t ∈ halfKnownTracks, t.CodecReported) ∧
      (synthesize halfKnownTracks anewRules []).outcome = .ok plan ∧
      plan.arguments none = .ok arguments ∧
      ["-c:a:0", ""] <:+: arguments.audio ∧ plan.LacksCodec anewRules halfKnownTracks 0 ∧
      ["-c:a:1", "ac3"] <:+: arguments.audio ∧
      ¬ plan.LacksCodec anewRules halfKnownTracks 1 := by
  have hvalid : validate anewDocument = .ok anewRules := by decide +kernel
  have htracks : ∀ t ∈ halfKnownTracks, t.CodecReported := by
    simp [halfKnownTracks, Track.CodecReported]
  have hseen : (synthesize halfKnownTracks anewRules []).outcome.toOption.map (fun plan =>
      (plan.arguments none).toOption.map Arguments.audio) =
        some (some ["-map", "0:a:0", "-c:a:0", "", "-metadata:s:a:0", "language=und",
          "-map", "0:a:1", "-c:a:1", "ac3", "-metadata:s:a:1", "language=und"]) := by
    decide +kernel
  obtain ⟨plan, hplan, hparts⟩ := exists_eq_ok_of_map hseen
  obtain ⟨arguments, harguments, haudio⟩ := exists_eq_ok_of_map hparts
  obtain ⟨-, hrendered⟩ := synthesize_codec_eq_empty_iff hvalid htracks hplan
  obtain ⟨other, hother, hempty⟩ := hrendered none
  obtain rfl : arguments = other := Except.ok.inj (harguments.symm.trans hother)
  have hfirst : ["-c:a:0", ""] <:+: arguments.audio := by
    rw [haudio]
    decide
  have hsecond : ¬ ["-c:a:1", ""] <:+: arguments.audio := by
    rw [haudio]
    decide
  have hset : ["-c:a:1", "ac3"] <:+: arguments.audio := by
    rw [haudio]
    decide
  exact ⟨plan, arguments, hvalid, htracks, hplan, harguments, hfirst, (hempty 0).1 hfirst, hset,
    mt (hempty 1).2 hsecond⟩

end AudioPlan
