import AudioPlan.Proofs.Plan.Layout
import AudioPlan.Proofs.Rule.Canonical
import AudioPlan.Proofs.Track.Limits
import AudioPlan.Proofs.Track.Matching

/-!
# Ceilings in a plan

What a plan has for an output track is what the operation makes that the output track stands for
(`synthesize_makes`).  For a transcode operation the parameters are settled under the codec that the
plan sets, so no output track of a plan is above a ceiling of its codec (`synthesize_ceilings`).

* `Plan.settings` are the values that a plan sets for an output track;
* `Plan.Makes` says which operation an output track stands for;
* `transcodeOutput_settings` gives the settings of one transcode operation.
-/

namespace AudioPlan

/-! ## Values that are set -/

/-- The values that instructions of one kind set. -/
def valuesOf (kind : InstructionKind) (instructions : List Instruction) : List Value :=
  (instructions.filter (·.kind == kind)).map Instruction.value

/-- The values that a plan sets for an output track by instructions of one kind. -/
def Plan.settings (p : Plan) (output : Nat) (kind : InstructionKind) : List Value :=
  valuesOf kind (p.forOutput output)

theorem valuesOf_append (kind : InstructionKind) (first second : List Instruction) :
    valuesOf kind (first ++ second) = valuesOf kind first ++ valuesOf kind second := by
  rw [valuesOf, List.filter_append, List.map_append]
  rfl

theorem valuesOf_setting (kind other : InstructionKind) (output : Nat) (value : Option Value) :
    valuesOf kind (setting other output value) = if other = kind then value.toList else [] := by
  cases value with
  | none => rw [Option.toList_none, ite_self]; rfl
  | some value =>
    by_cases h : other = kind
    · rw [if_pos h]
      simp [valuesOf, setting, h]
    · rw [if_neg h]
      simp [valuesOf, setting, h]

theorem valuesOf_opening (kind : InstructionKind) (codec : String) (input output : Nat) :
    valuesOf kind (opening codec input output) =
      if kind = .mapSource then [.null] else if kind = .setCodec then [.text codec] else [] := by
  cases kind <;> rfl

/-- What the encoder is told of a parameter. -/
def Resolved.told (r : Resolved (Field (Option Int))) : List Value :=
  if r.emit then [r.value.optionalIntValue] else []

theorem Resolved.toList_emitted (r : Resolved (Field (Option Int))) :
    r.emitted.toList = r.told := by
  unfold Resolved.emitted Resolved.told
  split <;> rfl

/-- A transcode operation sets the codec it aims at, and the parameters as they are resolved. -/
theorem transcodeOutput_settings {t : Track} {rule : Rule} {o : TranscodeOperation}
    {input output : Nat} {made : Output} (h : transcodeOutput t rule o input output = .ok made) :
    ∃ codec channels bitRate, targetCodec t o = .ok codec ∧
      resolveChannelField codec t.channels o.channels = .ok channels ∧
      resolveBitRateField codec t.bitRate o.bitRate = .ok bitRate ∧
      valuesOf .setCodec made.instructions = [.text codec] ∧
      valuesOf .setChannels made.instructions = channels.told ∧
      valuesOf .setBitRate made.instructions = bitRate.told := by
  have hblock : OperationBlock t rule input output (.transcode o) made.instructions :=
    operationOutput_layout h
  generalize made.instructions = block at hblock
  cases hblock with
  | @transcode _ codec channels bitRate title hcodec hchannels hbitRate htitle =>
    refine ⟨codec, channels, bitRate, hcodec, hchannels, hbitRate, ?_, ?_, ?_⟩
    · simp [valuesOf_append, valuesOf_setting, valuesOf_opening]
    · simp [valuesOf_append, valuesOf_setting, valuesOf_opening, Resolved.toList_emitted]
    · simp [valuesOf_append, valuesOf_setting, valuesOf_opening, Resolved.toList_emitted]

/-- The encoder is told one number for a settled parameter, or nothing. -/
theorem Resolved.Settled.told_cases {ceiling : Option Int} {source : Field (Option Int)}
    {reason : Int → Prop} {r : Resolved (Field (Option Int))}
    (h : r.Settled ceiling source reason) :
    (∃ n, r.told = [.int n] ∧ reason n ∧ 0 < n ∧ ∀ bound, ceiling = some bound → n ≤ bound) ∨
      (r.told = [] ∧ ∀ bound, ceiling = some bound → source.AtMost bound) := by
  cases h with
  | told hreason hpos hle => exact .inl ⟨_, rfl, hreason, hpos, hle⟩
  | untold hle => exact .inr ⟨rfl, hle⟩

/-! ## The operation behind an output track -/

/-- A plan makes an output track of a track by an operation of the rule that applies to the track:
the decision about the track names the output track where the rule has the operation. -/
def Plan.Makes (plan : Plan) (rs : RuleSet) (tracks : List Track) (k : Nat) (t : Track)
    (rule : Rule) (operation : Operation) : Prop :=
  ∃ (j : Nat) (d : Decision) (i : Nat), tracks[j]? = some t ∧ plan.decisions[j]? = some d ∧
    t.findRule rs = .ok (some rule) ∧ rule.operations[i]? = some operation ∧
      d.outputs[i]? = some k

/-- The instructions of a plan for an output track are those of the operation it stands for. -/
theorem synthesize_makes {tracks others : List Track} {rs : RuleSet} {plan : Plan}
    (hplan : (synthesize tracks rs others).outcome = .ok plan) (hchanged : plan.changed = true)
    {k : Nat} {t : Track} {rule : Rule} {operation : Operation}
    (hmakes : plan.Makes rs tracks k t rule operation) :
    ∃ m source, operationOutput t rule operation source k = .ok m ∧
      plan.forOutput k = m.instructions := by
  obtain ⟨made, passthrough, hmade, -, rfl⟩ := synthesize_changed hplan hchanged
  obtain ⟨j, d, i, ht, hd, hrule, hoperation, hk⟩ := hmakes
  obtain ⟨m, hm, hinstructions⟩ := (hmade.filter_output ht hd hk).exists_made hrule hoperation
  exact ⟨m, _, hm, hinstructions⟩

/-! ## Ceilings -/

/-- The settings of a parameter are within a ceiling: one positive number up to it, or none where
the source is not above it. -/
def Within (ceiling : Int) (source : Field (Option Int)) (settings : List Value) : Prop :=
  (∃ n, settings = [.int n] ∧ 0 < n ∧ n ≤ ceiling) ∨ (settings = [] ∧ source.AtMost ceiling)

theorem Resolved.Settled.within {ceiling : Option Int} {source : Field (Option Int)}
    {reason : Int → Prop} {r : Resolved (Field (Option Int))}
    (h : r.Settled ceiling source reason) {bound : Int} (hbound : ceiling = some bound) :
    Within bound source r.told := by
  rcases h.told_cases with ⟨n, htold, -, hpos, hle⟩ | ⟨htold, hle⟩
  · exact .inl ⟨n, htold, hpos, hle bound hbound⟩
  · exact .inr ⟨htold, hle bound hbound⟩

theorem Resolved.Settled.reason_of_mem {ceiling : Option Int} {source : Field (Option Int)}
    {reason : Int → Prop} {r : Resolved (Field (Option Int))}
    (h : r.Settled ceiling source reason) {v : Value} (hv : v ∈ r.told) :
    ∃ n, v = .int n ∧ reason n := by
  rcases h.told_cases with ⟨n, htold, hreason, -, -⟩ | ⟨htold, -⟩
  · rw [htold, List.mem_singleton] at hv
    exact ⟨n, hv, hreason⟩
  · rw [htold] at hv
    cases hv

/-- No output track that a transcode operation makes is above a ceiling of its codec.  The plan sets
one codec for it.  If that codec has a ceiling on the channel count, the plan sets a positive count
up to it, or none for a source that is not above it; so for the bit rate.  Whatever the codec, a
number is set for a reason. -/
theorem synthesize_ceilings {d : Value} {rs : RuleSet} (hvalid : validate d = .ok rs)
    {tracks others : List Track} {plan : Plan}
    (hplan : (synthesize tracks rs others).outcome = .ok plan) (hchanged : plan.changed = true)
    {k : Nat} {t : Track} {rule : Rule} {o : TranscodeOperation}
    (hmakes : plan.Makes rs tracks k t rule (.transcode o)) :
    ∃ codec, targetCodec t o = .ok codec ∧ plan.settings k .setCodec = [.text codec] ∧
      (∀ bound, channelCeiling codec = some bound →
        Within bound t.channels.present (plan.settings k .setChannels)) ∧
      (∀ bound, bitRateCeiling codec = some bound →
        Within bound t.bitRate (plan.settings k .setBitRate)) ∧
      (∀ v ∈ plan.settings k .setChannels, ∃ n, v = .int n ∧
        ChannelReason codec t.channels.present o.channels n) ∧
      ∀ v ∈ plan.settings k .setBitRate, ∃ n, v = .int n ∧ BitRateReason codec o.bitRate n := by
  obtain ⟨m, source, hm, hinstructions⟩ := synthesize_makes hplan hchanged hmakes
  obtain ⟨codec, channels, bitRate, hcodec, hchannels, hbitRate, hsetCodec, hsetChannels,
    hsetBitRate⟩ := transcodeOutput_settings hm
  rw [← hinstructions] at hsetCodec hsetChannels hsetBitRate
  have hnormal : o.Normal := by
    obtain ⟨_, _, _, -, -, hrule, hoperation, -⟩ := hmakes
    rcases Track.findRule_eq_ok hrule with ⟨hnone, -⟩ | ⟨found, hfound, hsome, -⟩
    · cases hnone
    · cases hsome
      exact (validate_normal hvalid hfound).operations o (List.mem_of_getElem? hoperation)
  have hchannelsSettled := resolveChannelField_settled hchannels hnormal.channels
  have hbitRateSettled := resolveBitRateField_settled hbitRate hnormal.bitRate
  refine ⟨codec, hcodec, hsetCodec, ?_, ?_, ?_, ?_⟩
  · intro bound hbound
    rw [Plan.settings, hsetChannels]
    exact hchannelsSettled.within hbound
  · intro bound hbound
    rw [Plan.settings, hsetBitRate]
    exact hbitRateSettled.within hbound
  · intro v hv
    rw [Plan.settings, hsetChannels] at hv
    exact hchannelsSettled.reason_of_mem hv
  · intro v hv
    rw [Plan.settings, hsetBitRate] at hv
    exact hbitRateSettled.reason_of_mem hv

/-- A document with one rule that encodes every track anew under the codec that it has. -/
def anewDocument : Value :=
  .list [.map [("match", .map [("codecs", .text "*")]),
    ("operations", .list [.map [("transcode", .map [("codec", .text "Copy")])]])]]

/-- The rule set of that document. -/
def anewRules : RuleSet :=
  ⟨[{ criteria := { codecs := .all }, operations := [.transcode { codec := "Copy" }] }]⟩

/-- A track with more channels and a higher bit rate than the encoder of its codec can produce. -/
def loudTrack : Track :=
  { index := .known 1, codec := .known (some "AC3"), channels := .known 8,
    bitRate := .known (some 1509000) }

theorem synthesize_ceilings_loud :
    ∃ plan, validate anewDocument = .ok anewRules ∧
      (synthesize [loudTrack] anewRules []).outcome = .ok plan ∧ plan.changed = true ∧
      plan.Makes anewRules [loudTrack] 0 loudTrack
        { criteria := { codecs := .all }, operations := [.transcode { codec := "Copy" }] }
        (.transcode { codec := "Copy" }) ∧
      plan.settings 0 .setCodec = [.text "AC3"] ∧
      Within 6 (.known (some 8)) (plan.settings 0 .setChannels) ∧
      Within 640000 (.known (some 1509000)) (plan.settings 0 .setBitRate) := by
  have hvalid : validate anewDocument = .ok anewRules := by decide +kernel
  have hrule : loudTrack.findRule anewRules = .ok anewRules.rules[0]? := by decide +kernel
  have hseen : ((synthesize [loudTrack] anewRules []).outcome.toOption.map fun plan =>
      (plan.changed, plan.decisions.map Decision.outputs)) = some (true, [[0]]) := by
    decide +kernel
  have htarget : targetCodec loudTrack { codec := "Copy" } = .ok "AC3" := by decide +kernel
  have hchannelCeiling : channelCeiling "AC3" = some 6 := by decide +kernel
  have hbitRateCeiling : bitRateCeiling "AC3" = some 640000 := by decide +kernel
  obtain ⟨plan, hplan, hparts⟩ := exists_eq_ok_of_map hseen
  obtain ⟨hchanged, houtputs⟩ := Prod.mk.inj hparts
  obtain ⟨d, hd, houtput⟩ := List.map_eq_singleton_iff.1 houtputs
  have hmakes : plan.Makes anewRules [loudTrack] 0 loudTrack _ (.transcode { codec := "Copy" }) :=
    ⟨0, d, 0, rfl, by rw [hd]; rfl, hrule, rfl, by rw [houtput]; rfl⟩
  obtain ⟨codec, hcodec, hsetCodec, hchannels, hbitRate, -⟩ :=
    synthesize_ceilings hvalid hplan hchanged hmakes
  rw [htarget] at hcodec
  cases hcodec
  exact ⟨plan, hvalid, hplan, hchanged, hmakes, hsetCodec, hchannels 6 hchannelCeiling,
    hbitRate 640000 hbitRateCeiling⟩

end AudioPlan
