import AudioPlan.Proofs.Value.Entries
import AudioPlan.Proofs.Value.Fits
import AudioPlan.Track.Limits

/-!
# Parameters within their limits

A parameter of an output track is settled in one of two ways (`Resolved.Settled`).  Either the
encoder is told a number, which is positive, within the ceiling of the codec and there for a reason;
or it is told nothing, and then the source is within the ceiling itself.

* `Field.AtMost` and `Field.Above` compare a source with a bound, whether or not it is a number;
* `Resolved.Kept` says that a parameter that the encoder is not told is that of the source;
* `ChannelsResolved`, with `CountResolved` for numbers, and `RateResolved` list the ways in which a
  parameter is resolved, and what holds of parameters is shown by going through them;
* `resolveChannelField_settled` and `resolveChannelField_kept` are about channel counts;
* `resolveBitRateField_settled` and `resolveBitRateField_kept` are about bit rates.
-/

namespace AudioPlan

/-! ## Sources and bounds -/

/-- The source is not above a bound.  This includes a source that is not known. -/
def Field.AtMost (bound : Int) : Field (Option Int) → Prop
  | .known (some n) => n ≤ bound
  | .known none => True
  | .foreign v => foreignAbove v bound = .ok false

/-- The source is above a bound. -/
def Field.Above (bound : Int) : Field (Option Int) → Prop
  | .known (some n) => bound < n
  | .known none => False
  | .foreign v => foreignAbove v bound = .ok true

theorem channelCeiling_pos {codec : String} {ceiling : Int}
    (h : channelCeiling codec = some ceiling) : 0 < ceiling := by
  have hall : ∀ entry ∈ channelCeilings, 0 < entry.2 := by decide
  exact hall _ (mem_of_lookup_eq_some h)

theorem bitRateCeiling_pos {codec : String} {ceiling : Int}
    (h : bitRateCeiling codec = some ceiling) : 0 < ceiling := by
  have hall : ∀ entry ∈ bitRateCeilings, 0 < entry.2 := by decide
  exact hall _ (mem_of_lookup_eq_some h)

/-- AAC has no ceiling on the channel count, so its safe count is never cut. -/
theorem channelCeiling_of_isAac {codec : String} (h : isAac codec = true) :
    channelCeiling codec = none := by
  rw [channelCeiling, beq_iff_eq.1 h]
  rfl

/-! ## Settled parameters -/

/-- A parameter is settled: the encoder is told a positive number within the ceiling for a reason,
or it is told nothing and the source is within the ceiling. -/
inductive Resolved.Settled (ceiling : Option Int) (source : Field (Option Int))
    (reason : Int → Prop) : Resolved (Field (Option Int)) → Prop where
  | told {n : Int} {note : Option String} (hreason : reason n) (hpos : 0 < n)
      (hle : ∀ bound, ceiling = some bound → n ≤ bound) :
      Settled ceiling source reason ⟨.known (some n), true, note⟩
  | untold {value : Field (Option Int)} {note : Option String}
      (hle : ∀ bound, ceiling = some bound → source.AtMost bound) :
      Settled ceiling source reason ⟨value, false, note⟩

/-- A parameter that is cut to the ceiling is settled. -/
theorem Resolved.Settled.cut {ceiling : Option Int} {source : Field (Option Int)}
    {reason : Int → Prop} {c : Int} (hc : ceiling = some c) (hreason : reason c) (hpos : 0 < c)
    (note : Option String) :
    Resolved.Settled ceiling source reason ⟨.known (some c), true, note⟩ := by
  refine .told hreason hpos fun bound hbound => ?_
  rw [hc, Option.some.injEq] at hbound
  exact Int.le_of_eq hbound

/-- A parameter that the encoder is not told was not asked for and is that of the source, or nothing
for a source that is missing or zero. -/
def Resolved.Kept (source : Field (Option Int)) (requested : Option Int)
    (r : Resolved (Field (Option Int))) : Prop :=
  r.emit = false → requested = none ∧
    (r.value = source ∨ r.value = .known none ∧ source.optionalIntValue.given = false)

theorem Resolved.Kept.told {source : Field (Option Int)} {requested : Option Int}
    (value : Field (Option Int)) (note : Option String) :
    Resolved.Kept source requested ⟨value, true, note⟩ := nofun

theorem Resolved.Kept.source (source : Field (Option Int)) (note : Option String) :
    Resolved.Kept source none ⟨source, false, note⟩ := fun _ => ⟨rfl, .inl rfl⟩

/-- Why an encoder is told a channel count: the operation asks for it, the codec allows no more, or
it is the safe count of AAC. -/
inductive ChannelReason (codec : String) (source : Field (Option Int)) (requested : Option Int) :
    Int → Prop where
  | requested {n : Int} (h : requested = some n) : ChannelReason codec source requested n
  | ceiling {n : Int} (h : channelCeiling codec = some n) : ChannelReason codec source requested n
  | safe (haac : Text.lowerText codec = "aac") (hnone : requested = none)
      (habove : source.Above 6) : ChannelReason codec source requested 8

/-- Why an encoder is told a bit rate: the operation asks for it, or the codec allows no more. -/
inductive BitRateReason (codec : String) (requested : Option Int) : Int → Prop where
  | requested {n : Int} (h : requested = some n) : BitRateReason codec requested n
  | ceiling {n : Int} (h : bitRateCeiling codec = some n) : BitRateReason codec requested n

/-- What is cut to the ceiling is told to the encoder, with a note. -/
theorem cutToCeiling_eq_ok {codec unit : String} {c : Int} {was : Value}
    {r : Resolved (Option Int)} (h : cutToCeiling codec c unit was = .ok r) :
    ∃ note, r = ⟨some c, true, some note⟩ := by
  obtain ⟨note, -, h⟩ := bind_eq_ok.1 h
  exact ⟨note, (Except.ok.inj h).symm⟩

/-- Cutting fails only for want of a note. -/
theorem faults_cutToCeiling_iff {codec unit : String} {c : Int} {was : Value} :
    Faults (cutToCeiling codec c unit was) ↔ was.fits = false := by
  rw [cutToCeiling, faults_bind_iff_left (fun note => not_faults_pure _), cutNote,
    faults_bind_iff_left (fun written => not_faults_pure _), Value.faults_written_iff]

/-- A number that is cut to the ceiling if it is above, and is otherwise resolved as given. -/
def cutNumber (codec : String) (ceiling : Option Int) (unit : String) (n : Int)
    (within : Resolved (Option Int)) : Except Fault (Resolved (Option Int)) :=
  match ceiling with
  | some c => if c < n then cutToCeiling codec c unit (.int n) else .ok within
  | none => .ok within

section Number

variable {codec unit : String} {ceiling : Option Int} {n : Int} {within : Resolved (Option Int)}

theorem cutNumber_cases {r : Resolved (Option Int)}
    (h : cutNumber codec ceiling unit n within = .ok r) :
    (r = within ∧ ∀ bound, ceiling = some bound → n ≤ bound) ∨
    ∃ c note, ceiling = some c ∧ c < n ∧ r = ⟨some c, true, some note⟩ := by
  cases ceiling with
  | none =>
    cases h
    exact .inl ⟨rfl, nofun⟩
  | some c =>
    by_cases habove : c < n
    · obtain ⟨note, rfl⟩ := cutToCeiling_eq_ok ((if_pos habove).symm.trans h)
      exact .inr ⟨c, note, rfl, habove, rfl⟩
    · refine .inl ⟨(Except.ok.inj ((if_neg habove).symm.trans h)).symm, fun bound hbound => ?_⟩
      rw [← Option.some.inj hbound]
      exact Int.not_lt.1 habove

/-- Only a number that is above the ceiling and cannot be written fails to be cut. -/
theorem faults_cutNumber_iff :
    Faults (cutNumber codec ceiling unit n within) ↔
      ∃ c, ceiling = some c ∧ c < n ∧ Text.fits n = false := by
  cases ceiling with
  | none => simp [cutNumber]
  | some c =>
    rw [cutNumber]
    split
    · rename_i habove
      rw [faults_cutToCeiling_iff, Value.fits_int]
      simp [habove]
    · rename_i hwithin
      simp [hwithin]

end Number

/-- A parameter of a foreign source for which nothing is requested: cut to the ceiling if it is
above, else left as it is. -/
def cutForeign (codec : String) (ceiling : Option Int) (unit : String) (v : Value)
    (value : Field (Option Int)) : Except Fault (Resolved (Field (Option Int))) :=
  match ceiling with
  | some c => do
    if ← foreignAbove v c then return (← cutToCeiling codec c unit v).map .known
    else return ⟨value, false, none⟩
  | none => return ⟨value, false, none⟩

section Foreign

variable {codec unit : String} {ceiling : Option Int} {v : Value} {value : Field (Option Int)}
  {r : Resolved (Field (Option Int))}

/-- A foreign source is left as it is, which it may be, or cut to the ceiling. -/
theorem cutForeign_cases (h : cutForeign codec ceiling unit v value = .ok r) :
    (r = ⟨value, false, none⟩ ∧
      ∀ bound, ceiling = some bound → (Field.foreign v).AtMost bound) ∨
    ∃ c note, ceiling = some c ∧ r = ⟨.known (some c), true, some note⟩ := by
  cases ceiling with
  | none =>
    cases h
    exact .inl ⟨rfl, nofun⟩
  | some c =>
    obtain ⟨above, habove, h⟩ := bind_eq_ok.1 h
    cases above with
    | true =>
      obtain ⟨cut, hcut, h⟩ := bind_eq_ok.1 h
      obtain ⟨note, rfl⟩ := cutToCeiling_eq_ok hcut
      exact .inr ⟨c, note, rfl, (Except.ok.inj h).symm⟩
    | false =>
      refine .inl ⟨(Except.ok.inj h).symm, fun bound hbound => ?_⟩
      rw [← Option.some.inj hbound]
      exact habove

theorem cutForeign_settled {reason : Int → Prop}
    (h : cutForeign codec ceiling unit v value = .ok r)
    (hceiling : ∀ c, ceiling = some c → reason c ∧ 0 < c) :
    r.Settled ceiling (.foreign v) reason := by
  rcases cutForeign_cases h with ⟨rfl, hle⟩ | ⟨c, note, hc, rfl⟩
  · exact .untold hle
  · exact .cut hc (hceiling c hc).1 (hceiling c hc).2 (some note)

theorem cutForeign_kept {source : Field (Option Int)}
    (h : cutForeign codec ceiling unit v value = .ok r)
    (hvalue : Resolved.Kept source none ⟨value, false, none⟩) : r.Kept source none := by
  rcases cutForeign_cases h with ⟨rfl, -⟩ | ⟨c, note, -, rfl⟩
  · exact hvalue
  · exact .told _ _

end Foreign

/-! ## Channel counts -/

section Channels

variable {codec : String} {source : Field (Option Int)} {requested : Option Int}

theorem settled_aacSafeChannels (haac : isAac codec = true) (hnone : requested = none)
    (habove : source.Above aacSafeThreshold) (note : Option String) :
    Resolved.Settled (channelCeiling codec) source (ChannelReason codec source requested)
      ⟨.known (some aacSafeChannels), true, note⟩ := by
  refine .told (.safe (beq_iff_eq.1 haac) hnone habove) (by decide) fun bound hbound => ?_
  rw [channelCeiling_of_isAac haac] at hbound
  cases hbound

/-- The count that is wanted of a source, before it is cut, and whether it is the safe one. -/
inductive Wanted (codec : String) (n : Int) (requested : Option Int) : Bool → Int → Prop where
  | requested {m : Int} (h : requested = some m) : Wanted codec n requested false m
  | safe (haac : isAac codec = true) (hnone : requested = none) (habove : aacSafeThreshold < n) :
      Wanted codec n requested true aacSafeChannels
  | source (hnone : requested = none) : Wanted codec n requested false n

theorem wanted_channels (codec : String) (n : Int) (requested : Option Int) :
    Wanted codec n requested
      (isAac codec && aacSafeThreshold < n && requested.isNone)
      (if isAac codec && aacSafeThreshold < n && requested.isNone then aacSafeChannels
        else requested.getD n) := by
  cases hrequested : requested with
  | some m =>
    rw [Option.isNone_some, Bool.and_false, if_neg Bool.false_ne_true]
    exact .requested rfl
  | none =>
    rw [Option.isNone_none, Bool.and_true]
    cases hforced : isAac codec && decide (aacSafeThreshold < n) with
    | true =>
      rw [Bool.and_eq_true, decide_eq_true_eq] at hforced
      exact .safe hforced.1 rfl hforced.2
    | false => exact .source rfl

/-- The ways in which the channel count of a source of `n` channels is resolved. -/
inductive CountResolved (codec : String) (n : Int) (requested : Option Int) :
    Resolved (Option Int) → Prop where
  | cut {c : Int} {note : Option String} (hc : channelCeiling codec = some c) :
      CountResolved codec n requested ⟨some c, true, note⟩
  | requested {m : Int} {note : Option String} (hsome : requested = some m)
      (hle : ∀ bound, channelCeiling codec = some bound → m ≤ bound) :
      CountResolved codec n requested ⟨some m, true, note⟩
  | safe {note : Option String} (haac : isAac codec = true) (hnone : requested = none)
      (habove : aacSafeThreshold < n) :
      CountResolved codec n requested ⟨some aacSafeChannels, true, note⟩
  | source {note : Option String} (hnone : requested = none)
      (hle : ∀ bound, channelCeiling codec = some bound → n ≤ bound) :
      CountResolved codec n requested ⟨if n = 0 then none else some n, false, note⟩

theorem Wanted.resolved {n wanted : Int} {forced : Bool}
    (h : Wanted codec n requested forced wanted)
    (hle : ∀ bound, channelCeiling codec = some bound → wanted ≤ bound) :
    CountResolved codec n requested (resolveChannels.settle n requested forced wanted) := by
  cases h with
  | requested hsome =>
    rw [resolveChannels.settle, hsome]
    exact .requested rfl hle
  | safe haac hnone habove =>
    rw [resolveChannels.settle, Bool.or_true, if_pos rfl]
    exact .safe haac hnone habove
  | source hnone =>
    rw [resolveChannels.settle, hnone, Option.isSome_none, bne_self_eq_false,
      if_neg (by decide)]
    exact .source rfl hle

theorem resolveChannels_resolved {n : Int} {r : Resolved (Option Int)}
    (h : resolveChannels codec n requested = .ok r) : CountResolved codec n requested r := by
  rcases cutNumber_cases h with ⟨rfl, hle⟩ | ⟨c, note, hc, -, rfl⟩
  · exact (wanted_channels codec n requested).resolved hle
  · exact .cut hc

/-- A number that stands for the source where nothing is requested is settled as the source is. -/
theorem CountResolved.settled {n : Int} {r : Resolved (Option Int)}
    (h : CountResolved codec n requested r)
    (hsource : requested = none → source = .known (some n))
    (hrequested : ∀ m, requested = some m → 0 < m) :
    (r.map Field.known).Settled (channelCeiling codec) source
      (ChannelReason codec source requested) := by
  cases h with
  | cut hc => exact .cut hc (.ceiling hc) (channelCeiling_pos hc) _
  | requested hsome hle => exact .told (.requested hsome) (hrequested _ hsome) hle
  | safe haac hnone habove =>
    refine settled_aacSafeChannels haac hnone ?_ _
    rw [hsource hnone]
    exact habove
  | source hnone hle =>
    rw [hsource hnone]
    exact .untold hle

theorem CountResolved.kept {n : Int} {r : Resolved (Option Int)}
    (h : CountResolved codec n requested r)
    (hsource : requested = none → source = .known (some n)) :
    (r.map Field.known).Kept source requested := by
  cases h with
  | cut | requested | safe => exact .told _ _
  | source hnone hle =>
    rw [hsource hnone, hnone]
    by_cases hzero : n = 0
    · rw [if_pos hzero, hzero]
      exact fun _ => ⟨rfl, .inr ⟨rfl, rfl⟩⟩
    · rw [if_neg hzero]
      exact .source _ _

/-- The channel count for a foreign source that is cut, if it comes to that. -/
def cutForeignChannels (codec : String) (v : Value) :
    Except Fault (Resolved (Field (Option Int))) :=
  cutForeign codec (channelCeiling codec) channelUnit v
    (if v.given then .foreign v else .known none)

theorem resolveChannelField_foreign_aac (haac : isAac codec = true) (v : Value) :
    resolveChannelField codec (.foreign v) none = (do
      if ← foreignAbove v aacSafeThreshold then
        return ⟨.known (some aacSafeChannels), true, some safeNote⟩
      else cutForeignChannels codec v) := by
  rw [resolveChannelField, if_pos haac]
  unfold cutForeignChannels cutForeign
  refine congrArg _ (funext fun above => ?_)
  cases above with
  | true => rfl
  | false =>
    cases channelCeiling codec with
    | none => rfl
    | some c => rfl

theorem resolveChannelField_foreign_other (hother : isAac codec = false) (v : Value) :
    resolveChannelField codec (.foreign v) none = cutForeignChannels codec v := by
  rw [resolveChannelField, if_neg (ne_true_of_eq_false hother)]
  unfold cutForeignChannels cutForeign
  cases channelCeiling codec with
  | none => rfl
  | some c => rfl

theorem resolveChannelField_foreign_requested {v : Value} {m : Int}
    {r : Resolved (Field (Option Int))}
    (h : resolveChannelField codec (.foreign v) (some m) = .ok r) :
    ∃ count, resolveChannels codec m (some m) = .ok count ∧ r = count.map .known := by
  rw [resolveChannelField] at h
  split at h
  all_goals
    obtain ⟨above, -, h⟩ := bind_eq_ok.1 h
    obtain ⟨count, hcount, h⟩ := bind_eq_ok.1 h
    exact ⟨count, hcount, (Except.ok.inj h).symm⟩

/-- The ways in which a channel count is resolved for what a source reports: as a number that stands
for it where nothing is requested, or as a foreign value. -/
inductive ChannelsResolved (codec : String) (source : Field (Option Int)) (requested : Option Int) :
    Resolved (Field (Option Int)) → Prop where
  | number {n : Int} {r : Resolved (Option Int)}
      (hsource : requested = none → source = .known (some n))
      (hcount : CountResolved codec n requested r) :
      ChannelsResolved codec source requested (r.map .known)
  | safe {v : Value} (hsource : source = .foreign v) (hnone : requested = none)
      (haac : isAac codec = true) (habove : foreignAbove v aacSafeThreshold = .ok true) :
      ChannelsResolved codec source requested ⟨.known (some aacSafeChannels), true, some safeNote⟩
  | cut {v : Value} {r : Resolved (Field (Option Int))} (hsource : source = .foreign v)
      (hnone : requested = none) (hcut : cutForeignChannels codec v = .ok r) :
      ChannelsResolved codec source requested r

theorem resolveChannelField_resolved {reported : Field Int} {r : Resolved (Field (Option Int))}
    (h : resolveChannelField codec reported requested = .ok r) :
    ChannelsResolved codec reported.present requested r := by
  cases reported with
  | known n =>
    obtain ⟨count, hcount, h⟩ := bind_eq_ok.1 h
    cases h
    exact .number (fun _ => rfl) (resolveChannels_resolved hcount)
  | foreign v =>
    cases requested with
    | some m =>
      obtain ⟨count, hcount, rfl⟩ := resolveChannelField_foreign_requested h
      exact .number nofun (resolveChannels_resolved hcount)
    | none =>
      cases haac : isAac codec with
      | true =>
        rw [resolveChannelField_foreign_aac haac] at h
        obtain ⟨above, habove, h⟩ := bind_eq_ok.1 h
        cases above with
        | true =>
          cases h
          exact .safe rfl rfl haac habove
        | false => exact .cut rfl rfl h
      | false =>
        rw [resolveChannelField_foreign_other haac] at h
        exact .cut rfl rfl h

/-- The channel count of an output track is settled, whatever the source reports. -/
theorem resolveChannelField_settled {reported : Field Int} {r : Resolved (Field (Option Int))}
    (h : resolveChannelField codec reported requested = .ok r)
    (hrequested : ∀ m, requested = some m → 0 < m) :
    r.Settled (channelCeiling codec) reported.present
      (ChannelReason codec reported.present requested) := by
  cases resolveChannelField_resolved h with
  | number hsource hcount => exact hcount.settled hsource hrequested
  | safe hsource hnone haac habove =>
    refine settled_aacSafeChannels haac hnone ?_ (some safeNote)
    rw [hsource]
    exact habove
  | cut hsource hnone hcut =>
    rw [hsource]
    exact cutForeign_settled hcut fun c hc => ⟨.ceiling hc, channelCeiling_pos hc⟩

/-- A channel count that the encoder is not told is that of the source. -/
theorem resolveChannelField_kept {reported : Field Int} {r : Resolved (Field (Option Int))}
    (h : resolveChannelField codec reported requested = .ok r) :
    r.Kept reported.present requested := by
  cases resolveChannelField_resolved h with
  | number hsource hcount => exact hcount.kept hsource
  | safe => exact .told _ _
  | @cut v _ hsource hnone hcut =>
    rw [hsource, hnone]
    refine cutForeign_kept hcut ?_
    cases hgiven : v.given with
    | true => exact .source _ _
    | false => exact fun _ => ⟨rfl, .inr ⟨rfl, hgiven⟩⟩

end Channels

/-! ## Bit rates -/

section BitRates

variable {codec : String} {source : Field (Option Int)} {requested : Option Int}

/-- A rate is cut to the ceiling of the codec: the requested one, which the encoder is told in any
case, else that of the source. -/
theorem resolveBitRate_eq (codec : String) (source requested : Option Int) :
    resolveBitRate codec source requested =
      match requested, source with
      | some n, _ => cutNumber codec (bitRateCeiling codec) bitRateUnit n ⟨some n, true, none⟩
      | none, some n => cutNumber codec (bitRateCeiling codec) bitRateUnit n ⟨some n, false, none⟩
      | none, none => .ok ⟨none, false, none⟩ := by
  have hcut : ∀ (n : Int) (within : Resolved (Option Int)),
      (((bitRateCeiling codec).bind fun c =>
        if c < n then some (cutToCeiling codec c bitRateUnit (.int n)) else none).getD
          (.ok within)) = cutNumber codec (bitRateCeiling codec) bitRateUnit n within := by
    intro n within
    cases bitRateCeiling codec with
    | none => rfl
    | some c =>
      by_cases habove : c < n
      · simp [cutNumber, habove]
      · simp [cutNumber, habove]
  cases requested with
  | some n => exact hcut n ⟨some n, true, none⟩
  | none =>
    cases source with
    | none => rfl
    | some n => exact hcut n ⟨some n, false, none⟩

/-- The ways in which a bit rate is resolved for the rate of a source. -/
inductive RateResolved (codec : String) (rate requested : Option Int) :
    Resolved (Option Int) → Prop where
  | cut {c : Int} {note : Option String} (hc : bitRateCeiling codec = some c) :
      RateResolved codec rate requested ⟨some c, true, note⟩
  | requested {m : Int} (hsome : requested = some m)
      (hle : ∀ bound, bitRateCeiling codec = some bound → m ≤ bound) :
      RateResolved codec rate requested ⟨some m, true, none⟩
  | source (hnone : requested = none)
      (hle : ∀ bound, bitRateCeiling codec = some bound → (Field.known rate).AtMost bound) :
      RateResolved codec rate requested ⟨rate, false, none⟩

theorem resolveBitRate_resolved {rate : Option Int} {r : Resolved (Option Int)}
    (h : resolveBitRate codec rate requested = .ok r) : RateResolved codec rate requested r := by
  rw [resolveBitRate_eq] at h
  cases requested with
  | some m =>
    rcases cutNumber_cases h with ⟨rfl, hle⟩ | ⟨c, note, hc, -, rfl⟩
    · exact .requested rfl hle
    · exact .cut hc
  | none =>
    cases rate with
    | none =>
      cases h
      exact .source rfl fun bound _ => trivial
    | some n =>
      rcases cutNumber_cases h with ⟨rfl, hle⟩ | ⟨c, note, hc, -, rfl⟩
      · exact .source rfl hle
      · exact .cut hc

/-- A rate that stands for the source where nothing is requested is settled as the source is. -/
theorem RateResolved.settled {rate : Option Int} {r : Resolved (Option Int)}
    (h : RateResolved codec rate requested r)
    (hsource : requested = none → source = .known rate)
    (hrequested : ∀ m, requested = some m → 0 < m) :
    (r.map Field.known).Settled (bitRateCeiling codec) source (BitRateReason codec requested) := by
  cases h with
  | cut hc => exact .cut hc (.ceiling hc) (bitRateCeiling_pos hc) _
  | requested hsome hle => exact .told (.requested hsome) (hrequested _ hsome) hle
  | source hnone hle =>
    rw [hsource hnone]
    exact .untold hle

theorem RateResolved.kept {rate : Option Int} {r : Resolved (Option Int)}
    (h : RateResolved codec rate requested r)
    (hsource : requested = none → source = .known rate) :
    (r.map Field.known).Kept source requested := by
  cases h with
  | cut | requested => exact .told _ _
  | source hnone hle =>
    rw [hsource hnone, hnone]
    exact .source _ _

theorem resolveBitRateField_foreign (codec : String) (v : Value) :
    resolveBitRateField codec (.foreign v) none =
      cutForeign codec (bitRateCeiling codec) bitRateUnit v (.foreign v) := by
  unfold resolveBitRateField cutForeign
  cases bitRateCeiling codec with
  | none => rfl
  | some c => rfl

/-- The ways in which a bit rate is resolved for what a source reports: as a rate that stands for it
where nothing is requested, or as a foreign value. -/
theorem resolveBitRateField_cases {r : Resolved (Field (Option Int))}
    (h : resolveBitRateField codec source requested = .ok r) :
    (∃ rate resolved, (requested = none → source = .known rate) ∧
      RateResolved codec rate requested resolved ∧ r = resolved.map .known) ∨
    ∃ v, source = .foreign v ∧ requested = none ∧
      cutForeign codec (bitRateCeiling codec) bitRateUnit v (.foreign v) = .ok r := by
  cases source with
  | known rate =>
    obtain ⟨resolved, hresolved, h⟩ := bind_eq_ok.1 h
    exact .inl ⟨rate, resolved, fun _ => rfl, resolveBitRate_resolved hresolved,
      (Except.ok.inj h).symm⟩
  | foreign v =>
    cases requested with
    | some m =>
      obtain ⟨resolved, hresolved, h⟩ := bind_eq_ok.1 h
      exact .inl ⟨none, resolved, nofun, resolveBitRate_resolved hresolved,
        (Except.ok.inj h).symm⟩
    | none =>
      rw [resolveBitRateField_foreign] at h
      exact .inr ⟨v, rfl, rfl, h⟩

/-- The bit rate of an output track is settled, whatever the source reports. -/
theorem resolveBitRateField_settled {r : Resolved (Field (Option Int))}
    (h : resolveBitRateField codec source requested = .ok r)
    (hrequested : ∀ m, requested = some m → 0 < m) :
    r.Settled (bitRateCeiling codec) source (BitRateReason codec requested) := by
  rcases resolveBitRateField_cases h with
    ⟨rate, resolved, hsource, hresolved, rfl⟩ | ⟨v, rfl, rfl, hcut⟩
  · exact hresolved.settled hsource hrequested
  · exact cutForeign_settled hcut fun c hc => ⟨.ceiling hc, bitRateCeiling_pos hc⟩

/-- A bit rate that the encoder is not told is that of the source. -/
theorem resolveBitRateField_kept {r : Resolved (Field (Option Int))}
    (h : resolveBitRateField codec source requested = .ok r) : r.Kept source requested := by
  rcases resolveBitRateField_cases h with
    ⟨rate, resolved, hsource, hresolved, rfl⟩ | ⟨v, rfl, rfl, hcut⟩
  · exact hresolved.kept hsource
  · exact cutForeign_kept hcut (.source _ _)

end BitRates

end AudioPlan
