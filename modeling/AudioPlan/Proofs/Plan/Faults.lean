import AudioPlan.Proofs.Plan.Steps
import AudioPlan.Proofs.Title.Faults
import AudioPlan.Proofs.Track.Limits
import AudioPlan.Proofs.Track.Matching

/-!
# Tracks that no plan can be made for

Where the rules have a marker, a synthesis faults exactly where one of its audio tracks does, and
the tracks beside it make no difference (`synthesize_faults_iff`).  A track, as reports have them,
faults in two ways (`TrackFault`):

* it has a codec that is no text and comes to a rule that asks for codecs;
* an operation of the rule that applies keeps such a codec, cuts a number that cannot be written, or
  has a title that cannot be expanded (`OperationFault`).
-/

namespace AudioPlan

/-! ## Operations -/

/-- The operation gives its output track a title. -/
def Operation.HasTitle (operation : Operation) : Prop :=
  ∃ template, operation.title = some template ∧ template ≠ ""

/-- The reasons for which an operation cannot be carried out on a track. -/
inductive OperationFault (t : Track) : Operation → Prop where
  | keptCodec {o : TranscodeOperation} (hcodec : t.HasForeignCodec)
      (hkept : Text.lowerText o.codec = keepCodec) : OperationFault t (.transcode o)
  /-- The count of the source is cut, but it is too long for the note on that. -/
  | cutChannels {o : TranscodeOperation} {n ceiling : Int} {codec : String}
      (hcount : t.channels = .known n) (hnone : o.channels = none)
      (hcodec : targetCodec t o = .ok codec) (hceiling : channelCeiling codec = some ceiling)
      (habove : ceiling < n) (hlong : Text.fits n = false) : OperationFault t (.transcode o)
  /-- The rate of the source is cut, but it is too long for the note on that. -/
  | cutBitRate {o : TranscodeOperation} {n ceiling : Int} {codec : String}
      (hrate : t.bitRate = .known (some n)) (hnone : o.bitRate = none)
      (hcodec : targetCodec t o = .ok codec) (hceiling : bitRateCeiling codec = some ceiling)
      (habove : ceiling < n) (hlong : Text.fits n = false) : OperationFault t (.transcode o)
  /-- The properties of the source cannot be put in a title. -/
  | title {operation : Operation} (htitle : operation.HasTitle) (h : TitleFault t none none) :
      OperationFault t operation
  /-- The rate that is asked for is not cut by the codec. -/
  | requestedBitRate {o : TranscodeOperation} {n : Int} {codec : String}
      (htitle : (Operation.transcode o).HasTitle) (hrate : o.bitRate = some n)
      (hcodec : targetCodec t o = .ok codec) (hceiling : bitRateCeiling codec = none)
      (hbeyond : BeyondThousands n) : OperationFault t (.transcode o)

/-- The output adds its two numbers to the properties of the source. -/
theorem titleFault_iff {t : Track} {channels bitRate : Option Int} :
    TitleFault t channels bitRate ↔ TitleFault t none none ∨
      (∃ n, channels = some n ∧ Uncountable n) ∨ ∃ n, bitRate = some n ∧ BeyondThousands n := by
  constructor
  · intro h
    cases h with
    | codec h => exact .inl (.codec h)
    | layout h => exact .inl (.layout h)
    | channels hn h => exact .inl (.channels hn h)
    | outputChannels hn h => exact .inr (.inl ⟨_, hn, h⟩)
    | bitRate hn h => exact .inl (.bitRate hn h)
    | outputBitRate hn h => exact .inr (.inr ⟨_, hn, h⟩)
  · rintro (h | ⟨n, hn, h⟩ | ⟨n, hn, h⟩)
    · cases h with
      | codec h => exact .codec h
      | layout h => exact .layout h
      | channels hn h => exact .channels hn h
      | outputChannels hn => cases hn
      | bitRate hn h => exact .bitRate hn h
      | outputBitRate hn => cases hn
    · exact .outputChannels hn h
    · exact .outputBitRate hn h

/-! ## Numbers of output tracks -/

theorem BeyondThousands.mono {m n : Int} (h : BeyondThousands m) (hle : m.natAbs ≤ n.natAbs) :
    BeyondThousands n :=
  Nat.le_trans h hle

/-- The ceilings of the codecs are far from the end of the range. -/
theorem not_beyondThousands_of_ceiling {codec : String} {ceiling : Int}
    (h : bitRateCeiling codec = some ceiling) : ¬ BeyondThousands ceiling := by
  have hceilings : ∀ entry ∈ bitRateCeilings, ¬ BeyondThousands entry.2 := by
    unfold BeyondThousands
    decide +kernel
  exact hceilings _ (mem_of_lookup_eq_some h)

theorem fits_bitRateCeiling {codec : String} {ceiling : Int}
    (h : bitRateCeiling codec = some ceiling) : Text.fits ceiling = true := by
  rw [← Bool.not_eq_false]
  exact fun hlong => not_beyondThousands_of_ceiling h (beyondThousands_of_not_fits hlong)

theorem not_uncountable_of_ceiling {codec : String} {ceiling : Int}
    (h : channelCeiling codec = some ceiling) : ¬ Uncountable ceiling := by
  have hceilings : ∀ entry ∈ channelCeilings, entry.2.natAbs < 10 ^ 99 := by decide
  exact not_uncountable_of_natAbs_lt (hceilings _ (mem_of_lookup_eq_some h))

theorem not_uncountable_safe : ¬ Uncountable aacSafeChannels :=
  not_uncountable_of_natAbs_lt (by decide)

theorem fits_of_not_uncountable {n : Int} (h : ¬ Uncountable n) : Text.fits n = true := by
  rw [← Bool.not_eq_false]
  exact fun hlong => h (.inl hlong)

section Resolved

variable {codec : String} {requested : Option Int}
  (hwritable : ∀ n, requested = some n → Text.fits n = true)

include hwritable

/-- Only the count of a source is too long to be cut. -/
theorem resolveChannels_faults_iff {n : Int} :
    Faults (resolveChannels codec n requested) ↔
      requested = none ∧ ∃ c, channelCeiling codec = some c ∧ c < n ∧ Text.fits n = false := by
  have hfaults : Faults (resolveChannels codec n requested) ↔ ∃ c, channelCeiling codec = some c ∧
      c < (if isAac codec && aacSafeThreshold < n && requested.isNone then aacSafeChannels
        else requested.getD n) ∧
      Text.fits (if isAac codec && aacSafeThreshold < n && requested.isNone then aacSafeChannels
        else requested.getD n) = false := faults_cutNumber_iff
  rw [hfaults]
  cases requested with
  | some m =>
    rw [Option.isNone_some, Bool.and_false, if_neg Bool.false_ne_true, Option.getD_some]
    refine iff_of_false ?_ nofun
    rintro ⟨c, -, -, hlong⟩
    exact Bool.false_ne_true (hlong.symm.trans (hwritable m rfl))
  | none =>
    rw [and_iff_right rfl]
    refine exists_congr fun c => and_congr_right fun hc => ?_
    have hother : isAac codec = false := by
      rw [← Bool.not_eq_true]
      intro haac
      rw [channelCeiling_of_isAac haac] at hc
      cases hc
    rw [hother, Bool.false_and, Bool.false_and, if_neg Bool.false_ne_true, Option.getD_none]

/-- Only the rate of a source is too long to be cut. -/
theorem resolveBitRate_faults_iff {rate : Option Int} :
    Faults (resolveBitRate codec rate requested) ↔
      requested = none ∧ ∃ n, rate = some n ∧
        ∃ c, bitRateCeiling codec = some c ∧ c < n ∧ Text.fits n = false := by
  rw [resolveBitRate_eq]
  cases requested with
  | some m =>
    refine iff_of_false (fun h => ?_) nofun
    obtain ⟨c, -, -, hlong⟩ := faults_cutNumber_iff.1 h
    exact Bool.false_ne_true (hlong.symm.trans (hwritable m rfl))
  | none =>
    cases rate with
    | none => simp
    | some n => simp [faults_cutNumber_iff]

variable {r : Resolved (Option Int)} (hpos : ∀ n, requested = some n → 0 < n)

include hpos

/-- The count that a title shows is that of the source, or one that can be written both ways. -/
theorem CountResolved.shown {n : Int} (h : CountResolved codec n requested r) :
    r.value.or (requested.or (some n)) = some n ∨
      ∃ m, r.value.or (requested.or (some n)) = some m ∧ ¬ Uncountable m := by
  cases h with
  | cut hc => exact .inr ⟨_, rfl, not_uncountable_of_ceiling hc⟩
  | requested hsome hle =>
    exact .inr ⟨_, rfl, not_uncountable_of_fits (hpos _ hsome) (hwritable _ hsome)⟩
  | safe => exact .inr ⟨_, rfl, not_uncountable_safe⟩
  | source hnone hle =>
    refine .inl ?_
    rw [hnone, Option.none_or]
    dsimp only
    split <;> rfl

omit hpos in
/-- The encoder is told no count that cannot be written. -/
theorem CountResolved.fits {n : Int} (h : CountResolved codec n requested r)
    (hemit : r.emit = true) : ∃ m, r.value = some m ∧ Text.fits m = true := by
  cases h with
  | cut hc => exact ⟨_, rfl, fits_of_not_uncountable (not_uncountable_of_ceiling hc)⟩
  | requested hsome hle => exact ⟨_, rfl, hwritable _ hsome⟩
  | safe => exact ⟨_, rfl, fits_of_not_uncountable not_uncountable_safe⟩
  | source => cases hemit

omit hpos in
/-- The encoder is told no rate that cannot be written. -/
theorem RateResolved.fits {rate : Option Int} (h : RateResolved codec rate requested r)
    (hemit : r.emit = true) : ∃ m, r.value = some m ∧ Text.fits m = true := by
  cases h with
  | cut hc => exact ⟨_, rfl, fits_bitRateCeiling hc⟩
  | requested hsome hle => exact ⟨_, rfl, hwritable _ hsome⟩
  | source => cases hemit

omit hwritable in
/-- An output rate beyond the range is that of the source, or one that is asked for and not cut. -/
theorem RateResolved.beyond_iff {rate : Option Int} (h : RateResolved codec rate requested r) :
    ((∃ n, rate = some n ∧ BeyondThousands n) ∨ ∃ n, r.value = some n ∧ BeyondThousands n) ↔
      (∃ n, rate = some n ∧ BeyondThousands n) ∨
        ∃ n, requested = some n ∧ bitRateCeiling codec = none ∧ BeyondThousands n := by
  cases h with
  | @cut c note hc =>
    have hcut : ¬ ∃ n, some c = some n ∧ BeyondThousands n := by
      rintro ⟨n, ⟨⟩, hbeyond⟩
      exact not_beyondThousands_of_ceiling hc hbeyond
    simp only [hcut, hc, reduceCtorEq, false_and, and_false, exists_false]
  | @requested m hsome hle =>
    refine or_congr_right (exists_congr fun n => ?_)
    rw [hsome]
    refine and_congr_right fun hn => ⟨fun hbeyond => ⟨?_, hbeyond⟩, And.right⟩
    cases hn
    cases hceiling : bitRateCeiling codec with
    | none => rfl
    | some c =>
      have hm := hpos m hsome
      have hmc := hle c hceiling
      exact absurd (hbeyond.mono (by omega)) (not_beyondThousands_of_ceiling hceiling)
  | source hnone hle => simp [hnone]

end Resolved

/-- The values of an output track that its encoder is told can be written. -/
theorem not_faults_resolvedOutput {kind : InstructionKind} {unit : String} {output : Nat}
    {r : Resolved (Option Int)}
    (h : r.emit = true → ∃ m, r.value = some m ∧ Text.fits m = true) :
    ¬ Faults (resolvedOutput kind unit output (r.map .known)) := by
  rw [resolvedOutput]
  split
  · rename_i hemit
    obtain ⟨m, hm, hfits⟩ := h hemit
    have hvalue : (r.map Field.known).value.optionalIntValue = .int m := by
      show (Field.known r.value).optionalIntValue = .int m
      rw [hm]
      rfl
    rw [hvalue, faults_bind_iff_left fun _ => not_faults_pure _, Value.faults_written_iff,
      Value.fits_int, hfits]
    exact nofun
  · exact not_faults_pure _

/-- A title of a transcoded track fails for its source, or for a rate that is asked for and not
cut. -/
theorem titleFault_resolved_iff {t : Track} {codec : String} {count : Int} {rate : Option Int}
    {o : TranscodeOperation} (ho : o.Normal) (hwritable : (Operation.transcode o).Writable)
    (hcount : t.channels = .known count) (hrate : t.bitRate = .known rate)
    {channels bitRate : Resolved (Option Int)}
    (hchannels : CountResolved codec count o.channels channels)
    (hbitRate : RateResolved codec rate o.bitRate bitRate) :
    TitleFault t (channels.value.or (o.channels.or (some count))) bitRate.value ↔
      TitleFault t none none ∨
        ∃ n, o.bitRate = some n ∧ bitRateCeiling codec = none ∧ BeyondThousands n := by
  have hbeyond := hbitRate.beyond_iff ho.bitRate
  have hsource : (∃ n, rate = some n ∧ BeyondThousands n) → TitleFault t none none := by
    rintro ⟨n, rfl, h⟩
    exact .bitRate hrate h
  rw [titleFault_iff]
  constructor
  · rintro (h | ⟨n, hn, h⟩ | h)
    · exact .inl h
    · rcases hchannels.shown hwritable.1 ho.channels with hshown | ⟨m, hshown, hm⟩
      · rw [hshown] at hn
        cases hn
        exact .inl (.channels hcount h)
      · rw [hshown] at hn
        cases hn
        exact absurd h hm
    · exact (hbeyond.1 (.inr h)).imp_left hsource
  · rintro (h | h)
    · exact .inl h
    · rcases hbeyond.2 (.inr h) with hrate | h
      · exact .inl (hsource hrate)
      · exact .inr (.inr h)

/-! ## Output tracks -/

section Output

variable {t : Track} {rule : Rule} (ht : t.Reported) (hrule : rule.Normal)

include ht hrule

theorem titleOutput_faults_iff {operation : Operation} {output : Nat}
    {channels shown bitRate : Option Int}
    (hshown : shownChannels t (some operation) (.known channels) = .known shown) :
    Faults (titleOutput t rule operation output (.known channels) (.known bitRate)) ↔
      operation.HasTitle ∧ TitleFault t shown bitRate := by
  have hexpand : ∀ template, Faults (expandTitle template t (some operation) rule.criteria.title
      (.known channels) (.known bitRate)) ↔ TitleFault t shown bitRate := fun _ =>
    expandTitle_faults_iff ht hrule.criteria.title hshown
  unfold titleOutput Operation.HasTitle
  split
  · rename_i hnone
    simp [hnone]
  · rename_i hempty
    simp [hempty]
  · rename_i template hne htitle
    have hgiven : ∃ template, operation.title = some template ∧ template ≠ "" :=
      ⟨template, htitle, hne⟩
    rw [and_iff_right hgiven, ← hexpand template]
    exact faults_bind_iff_left fun _ => not_faults_pure _

theorem copyOutput_faults_iff {o : CopyOperation} {input output : Nat} :
    Faults (copyOutput t rule o input output) ↔ OperationFault t (.copy o) := by
  obtain ⟨count, hcount⟩ := ht.channels
  obtain ⟨rate, hrate⟩ := ht.bitRate
  have hshown : shownChannels t (some (.copy o)) (.known none) = .known (some count) :=
    shownChannels_known hcount (some (.copy o)) none
  have hfaults : Faults (copyOutput t rule o input output) ↔
      (Operation.copy o).HasTitle ∧ TitleFault t (some count) rate := by
    rw [copyOutput, hrate, ← titleOutput_faults_iff ht hrule hshown]
    exact faults_bind_iff_left fun _ => not_faults_pure _
  rw [hfaults, titleFault_iff]
  constructor
  · -- A copy has the numbers of its source, so they are no reasons of their own.
    rintro ⟨htitle, h | ⟨n, ⟨⟩, h⟩ | ⟨n, rfl, h⟩⟩
    · exact .title htitle h
    · exact .title htitle (.channels hcount h)
    · exact .title htitle (.bitRate hrate h)
  · intro h
    cases h with
    | title htitle h => exact ⟨htitle, .inl h⟩

/-- Behind the choice of the codec, an operation fails for a number that is cut or for its title. -/
theorem faults_transcodeOutput {o : TranscodeOperation} (ho : o.Normal)
    (hwritable : (Operation.transcode o).Writable) {count : Int} {rate : Option Int}
    (hcount : t.channels = .known count) (hrate : t.bitRate = .known rate) {input output : Nat} :
    Faults (transcodeOutput t rule o input output) ↔ Faults (targetCodec t o) ∨
      ∃ codec, targetCodec t o = .ok codec ∧ (Faults (resolveChannels codec count o.channels) ∨
        Faults (resolveBitRate codec rate o.bitRate) ∨
        (Operation.transcode o).HasTitle ∧ (TitleFault t none none ∨
          ∃ n, o.bitRate = some n ∧ bitRateCeiling codec = none ∧ BeyondThousands n)) := by
  rw [transcodeOutput, faults_bind_iff]
  refine or_congr_right (exists_congr fun codec => and_congr_right fun _ => ?_)
  have hchannelField : Faults (resolveChannelField codec t.channels o.channels) ↔
      Faults (resolveChannels codec count o.channels) := by
    rw [hcount]
    exact faults_bind_iff_left fun _ => not_faults_pure _
  have hbitRateField : Faults (resolveBitRateField codec t.bitRate o.bitRate) ↔
      Faults (resolveBitRate codec rate o.bitRate) := by
    rw [hrate]
    exact faults_bind_iff_left fun _ => not_faults_pure _
  rw [← hchannelField, ← hbitRateField]
  refine faults_bind_iff_or fun field hfield => ?_
  rw [hcount] at hfield
  obtain ⟨channels, hchannels, hfield⟩ := bind_eq_ok.1 hfield
  cases hfield
  have hresolved := resolveChannels_resolved hchannels
  have hcountFits := hresolved.fits hwritable.1
  refine faults_bind_iff_right (not_faults_resolvedOutput hcountFits) fun _ _ => ?_
  refine faults_bind_iff_or fun field hfield => ?_
  rw [hrate] at hfield
  obtain ⟨bitRate, hbitRate, hfield⟩ := bind_eq_ok.1 hfield
  cases hfield
  have hresolvedRate := resolveBitRate_resolved hbitRate
  refine faults_bind_iff_right (not_faults_resolvedOutput (hresolvedRate.fits hwritable.2))
    fun _ _ => ?_
  rw [← titleFault_resolved_iff ho hwritable hcount hrate hresolved hresolvedRate]
  have hshown : shownChannels t (some (.transcode o)) (.known channels.value) =
      .known (channels.value.or (o.channels.or (some count))) := shownChannels_known hcount _ _
  exact (faults_bind_iff_left fun _ => not_faults_pure _).trans
    (titleOutput_faults_iff ht hrule hshown)

theorem transcodeOutput_faults_iff {o : TranscodeOperation} (ho : o.Normal)
    (hwritable : (Operation.transcode o).Writable) {input output : Nat} :
    Faults (transcodeOutput t rule o input output) ↔ OperationFault t (.transcode o) := by
  obtain ⟨count, hcount⟩ := ht.channels
  obtain ⟨rate, hrate⟩ := ht.bitRate
  have htarget : Faults (targetCodec t o) ↔
      Text.lowerText o.codec = keepCodec ∧ t.HasForeignCodec := by
    rw [targetCodec, ← codecText_faults_iff ht]
    split <;> simp_all
  rw [faults_transcodeOutput ht hrule ho hwritable hcount hrate, htarget]
  simp only [resolveChannels_faults_iff hwritable.1, resolveBitRate_faults_iff hwritable.2]
  constructor
  · rintro (⟨hkept, hcodec⟩ | ⟨codec, hcodec, ⟨hnone, c, hc, habove, hlong⟩ |
      ⟨hnone, n, rfl, c, hc, habove, hlong⟩ | ⟨htitle, h | ⟨n, hn, hceiling, h⟩⟩⟩)
    · exact .keptCodec hcodec hkept
    · exact .cutChannels hcount hnone hcodec hc habove hlong
    · exact .cutBitRate hrate hnone hcodec hc habove hlong
    · exact .title htitle h
    · exact .requestedBitRate htitle hn hcodec hceiling h
  · intro h
    by_cases hkept : Text.lowerText o.codec = keepCodec ∧ t.HasForeignCodec
    · exact .inl hkept
    · obtain ⟨codec, hcodec⟩ := not_faults_iff.1 (mt htarget.1 hkept)
      have hsame {other : String} (hother : targetCodec t o = .ok other) : other = codec :=
        Except.ok.inj (hother.symm.trans hcodec)
      refine .inr ⟨codec, hcodec, ?_⟩
      cases h with
      | keptCodec hforeign hcopy => exact absurd ⟨hcopy, hforeign⟩ hkept
      | cutChannels hn hnone hother hceiling habove hlong =>
        obtain rfl := hsame hother
        cases hcount.symm.trans hn
        exact .inl ⟨hnone, _, hceiling, habove, hlong⟩
      | cutBitRate hn hnone hother hceiling habove hlong =>
        obtain rfl := hsame hother
        cases hrate.symm.trans hn
        exact .inr (.inl ⟨hnone, _, rfl, _, hceiling, habove, hlong⟩)
      | title htitle h => exact .inr (.inr ⟨htitle, .inl h⟩)
      | requestedBitRate htitle hn hother hceiling h =>
        obtain rfl := hsame hother
        exact .inr (.inr ⟨htitle, .inr ⟨_, hn, hceiling, h⟩⟩)

theorem operationOutput_faults_iff {operation : Operation} (ho : operation ∈ rule.operations)
    (hwritable : operation.Writable) {input output : Nat} :
    Faults (operationOutput t rule operation input output) ↔ OperationFault t operation := by
  cases operation with
  | copy o => exact copyOutput_faults_iff ht hrule
  | transcode o => exact transcodeOutput_faults_iff ht hrule (hrule.operations o ho) hwritable

theorem operationOutputs_faults_iff (hwritable : rule.Writable) {operations : List Operation}
    (hoperations : ∀ operation ∈ operations, operation ∈ rule.operations) {input output : Nat} :
    Faults (operationOutputs t rule input output operations).outcome ↔
      ∃ operation ∈ operations, OperationFault t operation := by
  induction operations generalizing output with
  | nil => simp [operationOutputs]
  | cons operation rest ih =>
    obtain ⟨hfirst, hrest⟩ := List.forall_mem_cons.1 hoperations
    have hmade : Faults (operationOutput t rule operation input output) ↔
        OperationFault t operation :=
      operationOutput_faults_iff ht hrule hfirst (hwritable operation hfirst)
    simp only [operationOutputs, List.mem_cons, exists_eq_or_imp, Logged.outcome_bind,
      Logged.outcome_liftM, Logged.outcome_pure]
    rw [← hmade]
    refine faults_bind_iff_or fun made _ => ?_
    exact (faults_bind_iff_left fun _ => not_faults_pure _).trans (ih hrest)

end Output

/-! ## Rules -/

/-- The reasons for which nothing can be decided about a track: it comes to a rule that asks for the
codec, behind rules that do not match, or an operation of the rule that applies cannot be carried
out. -/
inductive TrackFault (rs : RuleSet) (t : Track) : Prop where
  | selector {before after : List Rule} {rule : Rule} (hcodec : t.HasForeignCodec)
      (hrules : rs.rules = before ++ rule :: after)
      (hbefore : ∀ r ∈ before, t.meets r.criteria = .ok false)
      (hselector : rule.criteria.codecs ≠ .all)
  | operation {rule : Rule} {operation : Operation} (hrule : t.findRule rs = .ok (some rule))
      (hoperation : operation ∈ rule.operations) (h : OperationFault t operation)

/-- The codec makes no difference to criteria that do not ask for it. -/
theorem meets_of_all {c : Criteria} (hall : c.codecs = .all) (t : Track)
    (codec : Field (Option String)) : { t with codec := codec }.meets c = t.meets c := by
  have hflags : ∀ flags, { t with codec := codec }.meetsDispositions flags =
      t.meetsDispositions flags := by
    intro flags
    induction flags with
    | nil => rfl
    | cons flag rest ih =>
      rw [Track.meetsDispositions, Track.meetsDispositions, ih]
      rfl
  rw [Track.meets, Track.meets, hall]
  simp only [hflags]
  rfl

section Rules

variable {t : Track} (ht : t.Reported)

include ht

/-- Matching faults for a codec that is no text, if the codec is asked for. -/
theorem meets_faults_iff {c : Criteria} (hc : c.Normal) :
    Faults (t.meets c) ↔ t.HasForeignCodec ∧ c.codecs ≠ .all := by
  obtain ⟨channels, hchannels⟩ := ht.channels
  obtain ⟨bitRate, hbitRate⟩ := ht.bitRate
  obtain ⟨language, hlanguage⟩ := ht.language
  obtain ⟨title, htitle⟩ := ht.title
  obtain ⟨flags, hflags⟩ := ht.flags
  -- Every other property is of its declared kind, so a known codec leaves nothing to fault at.
  have hknown : ∀ codec, ¬ Faults ({ t with codec := .known codec }.meets c) := by
    intro codec
    have hshows : { t with codec := .known codec }.Shows
        ⟨codec, channels, bitRate, language, title, flags⟩ :=
      ⟨rfl, hchannels, hbitRate, hlanguage, htitle, hflags⟩
    obtain ⟨b, hb, -⟩ := meets_decides hshows hc
    rw [hb]
    exact not_faults_ok b
  by_cases hall : c.codecs = .all
  · rw [← meets_of_all hall t (.known none)]
    exact iff_of_false (hknown none) fun h => h.2 hall
  · rw [and_iff_left hall]
    cases hcodec : t.codec with
    | known codec =>
      have hsame : t = { t with codec := .known codec } := by rw [← hcodec]
      rw [hsame]
      exact iff_of_false (hknown codec) nofun
    | foreign v =>
      have hforeign : t.HasForeignCodec := ⟨v, hcodec⟩
      have hcodecs : Faults (t.meetsCodecs c.codecs) := by
        rw [Track.meetsCodecs, faults_bind_iff]
        · exact .inl ((codecText_faults_iff ht).2 hforeign)
        · exact hall
      exact iff_of_true (faults_bind_iff.2 (.inl hcodecs)) hforeign

omit ht in
/-- The search through the rules faults where matching does, behind rules that do not match. -/
theorem firstMatch_faults_iff {position : Nat} {rules : List Rule} :
    Faults (t.firstMatch position rules) ↔ ∃ before rule after, rules = before ++ rule :: after ∧
      (∀ r ∈ before, t.meets r.criteria = .ok false) ∧ Faults (t.meets rule.criteria) := by
  induction rules generalizing position with
  | nil => simp [Track.firstMatch]
  | cons first rest ih =>
    rw [Track.firstMatch, faults_bind_iff]
    constructor
    · rintro (h | ⟨matched, hmatched, h⟩)
      · exact ⟨[], first, rest, rfl, List.forall_mem_nil _, h⟩
      · cases matched with
        | true => exact absurd h (not_faults_pure _)
        | false =>
          obtain ⟨before, rule, after, rfl, hbefore, h⟩ := ih.1 h
          exact ⟨first :: before, rule, after, rfl,
            List.forall_mem_cons.2 ⟨hmatched, hbefore⟩, h⟩
    · rintro ⟨before, rule, after, hrules, hbefore, h⟩
      cases before with
      | nil =>
        cases hrules
        exact .inl h
      | cons other before =>
        cases hrules
        obtain ⟨hother, hbefore⟩ := List.forall_mem_cons.1 hbefore
        exact .inr ⟨false, hother, ih.2 ⟨before, rule, after, rfl, hbefore, h⟩⟩

variable {rs : RuleSet} (hrs : ∀ r ∈ rs.rules, r.Normal)

include hrs

theorem findRule_faults_iff :
    Faults (t.findRule rs) ↔ t.HasForeignCodec ∧ ∃ before rule after,
      rs.rules = before ++ rule :: after ∧ (∀ r ∈ before, t.meets r.criteria = .ok false) ∧
        rule.criteria.codecs ≠ .all := by
  rw [Track.findRule, faults_bind_iff_left fun _ => not_faults_pure _, firstMatch_faults_iff]
  constructor
  · rintro ⟨before, rule, after, hrules, hbefore, h⟩
    have hrule : rule ∈ rs.rules := by simp [hrules]
    obtain ⟨hcodec, hselector⟩ := (meets_faults_iff ht (hrs rule hrule).criteria).1 h
    exact ⟨hcodec, before, rule, after, hrules, hbefore, hselector⟩
  · rintro ⟨hcodec, before, rule, after, hrules, hbefore, hselector⟩
    have hrule : rule ∈ rs.rules := by simp [hrules]
    have h := (meets_faults_iff ht (hrs rule hrule).criteria).2 ⟨hcodec, hselector⟩
    exact ⟨before, rule, after, hrules, hbefore, h⟩

theorem decide_faults_iff (hwritable : rs.Writable) {input output : Nat} :
    Faults (decide rs input output t).outcome ↔ TrackFault rs t := by
  have hfaults : Faults (decide rs input output t).outcome ↔ Faults (t.findRule rs) ∨
      ∃ rule, t.findRule rs = .ok (some rule) ∧
        ∃ operation ∈ rule.operations, OperationFault t operation := by
    rw [decide, Logged.outcome_bind, faults_bind_iff, Logged.outcome_liftM]
    refine or_congr_right ?_
    rw [Option.exists, or_iff_right fun h => not_faults_ok _ h.2]
    refine exists_congr fun rule => and_congr_right fun hfound => ?_
    have hrule : rule ∈ rs.rules := Track.mem_of_findRule hfound
    dsimp only
    rw [Logged.outcome_write_bind]
    split
    · rename_i hdrops
      rw [Logged.outcome_write_bind, List.isEmpty_iff.1 hdrops]
      exact iff_of_false (not_faults_ok _) (by simp)
    · rw [Logged.outcome_bind,
        ← operationOutputs_faults_iff ht (hrs rule hrule) (hwritable rule hrule)
          fun _ hoperation => hoperation]
      exact faults_bind_iff_left fun _ => not_faults_ok _
  rw [hfaults, findRule_faults_iff ht hrs]
  constructor
  · rintro (⟨hcodec, before, rule, after, hrules, hbefore, hselector⟩ |
      ⟨rule, hrule, operation, hoperation, h⟩)
    · exact .selector hcodec hrules hbefore hselector
    · exact .operation hrule hoperation h
  · intro h
    cases h with
    | selector hcodec hrules hbefore hselector =>
      exact .inl ⟨hcodec, _, _, _, hrules, hbefore, hselector⟩
    | operation hrule hoperation h => exact .inr ⟨_, hrule, _, hoperation, h⟩

end Rules

/-! ## All tracks -/

section Tracks

variable {rs : RuleSet} (hrs : ∀ r ∈ rs.rules, r.Normal) (hwritable : rs.Writable)

include hrs hwritable

theorem decideAll_faults_iff {tracks : List Track} (htracks : ∀ t ∈ tracks, t.Reported)
    {input output : Nat} :
    Faults (decideAll rs input output tracks).outcome ↔ ∃ t ∈ tracks, TrackFault rs t := by
  induction tracks generalizing input output with
  | nil => simp [decideAll]
  | cons t rest ih =>
    obtain ⟨ht, hrest⟩ := List.forall_mem_cons.1 htracks
    have hdecide : Faults (decide rs input output t).outcome ↔ TrackFault rs t :=
      decide_faults_iff ht hrs hwritable
    simp only [decideAll, List.mem_cons, exists_eq_or_imp, Logged.outcome_bind,
      Logged.outcome_pure]
    rw [← hdecide]
    refine faults_bind_iff_or fun first _ => ?_
    exact (faults_bind_iff_left fun _ => not_faults_pure _).trans (ih hrest)

/-- With rules that have a marker, a plan can be made unless something about one of the tracks
cannot be decided. -/
theorem synthesize_faults_iff {tracks others : List Track} (htracks : ∀ t ∈ tracks, t.Reported) :
    Faults (synthesize tracks rs others).outcome ↔ ∃ t ∈ tracks, TrackFault rs t := by
  rw [← decideAll_faults_iff hrs hwritable htracks, synthesize, Logged.outcome_bind]
  refine faults_bind_iff_left fun made => ?_
  dsimp only
  split
  · exact not_faults_ok _
  · obtain ⟨passthrough, hpassthrough⟩ := exists_passthroughFrom [] [] others
    rw [Logged.outcome_bind, planPassthrough, hpassthrough, marker_of_writable hwritable]
    exact not_faults_ok _

end Tracks

end AudioPlan
