import AudioPlan.Proofs.Binary64.Overflow
import AudioPlan.Proofs.Regex.Compilation
import AudioPlan.Proofs.Track.Faults
import AudioPlan.Proofs.Value.Fits
import AudioPlan.Title

/-!
# Titles that cannot be expanded

A title reads all properties of its track, also those that its template does not ask for.  For a
track as reports have them, four things make this fault (`TitleFault`): a codec that is no text, a
layout of the channels that is no text, a channel count that is too long to be written
(`Uncountable`), and bits per second whose thousands are beyond the range of floating-point numbers
(`BeyondThousands`).
-/

namespace AudioPlan

/-- Bits per second whose thousands are rounded to an infinity. -/
def BeyondThousands (n : Int) : Prop :=
  Binary64.overflowBound * 1000 ≤ n.natAbs

theorem thousandsText_faults_iff {x : Binary64} :
    Faults (thousandsText x) ↔ ∃ negative, x = .infinity negative := by
  unfold thousandsText
  split
  · simp
  · rename_i hfinite
    have hx : ¬ ∃ negative, x = .infinity negative := fun ⟨negative, h⟩ => hfinite negative h
    split <;> simp [hx]

theorem kilobits_faults_iff {n : Int} : Faults (kilobits n) ↔ BeyondThousands n := by
  rw [kilobits, thousandsText_faults_iff, BeyondThousands, Binary64.ofSignedRatio]
  constructor
  · rintro ⟨s, h⟩
    obtain rfl := Binary64.ofRatio_sign h
    exact (Binary64.ofRatio_eq_infinity_iff (by decide)).1 h
  · intro h
    exact ⟨_, (Binary64.ofRatio_eq_infinity_iff (by decide)).2 h⟩

theorem not_beyondThousands_zero : ¬ BeyondThousands 0 := by
  unfold BeyondThousands
  decide +kernel

/-- A rate with too many digits to be written is beyond the range all the more. -/
theorem beyondThousands_of_not_fits {n : Int} (h : Text.fits n = false) : BeyondThousands n := by
  refine Nat.le_trans ?_ (Text.not_fits_iff.1 h)
  have hbound : Binary64.overflowBound ≤ 2 ^ 1024 := by
    rw [Binary64.overflowBound]
    exact Nat.sub_le _ _
  have hbase (k : Nat) : 2 ^ k ≤ 10 ^ k := Nat.pow_le_pow_left (by decide) k
  have hexponent {j k : Nat} (hjk : j ≤ k) : 10 ^ j ≤ 10 ^ k := Nat.pow_le_pow_right (by decide) hjk
  calc Binary64.overflowBound * 1000 ≤ 2 ^ 1024 * 2 ^ 10 :=
        Nat.mul_le_mul hbound (by decide)
    _ = 2 ^ (1024 + 10) := by rw [Nat.pow_add]
    _ ≤ 10 ^ (1024 + 10) := hbase (1024 + 10)
    _ ≤ 10 ^ Text.digitLimit := hexponent (by decide)

/-- Channel counts that cannot be written, in digits or as people say them, which takes one away. -/
def Uncountable (n : Int) : Prop :=
  Text.fits n = false ∨ Text.fits (n - 1) = false

theorem not_uncountable_of_natAbs_lt {n : Int} (h : n.natAbs < 10 ^ 99) : ¬ Uncountable n := by
  have hn : Text.fits n = true := Text.fits_of_natAbs_lt (by omega)
  have hless : Text.fits (n - 1) = true := Text.fits_of_natAbs_lt (by omega)
  rintro (hlong | hlong)
  · exact Bool.false_ne_true (hlong.symm.trans hn)
  · exact Bool.false_ne_true (hlong.symm.trans hless)

/-- A positive count can be written both ways if it can be written in digits. -/
theorem not_uncountable_of_fits {n : Int} (hpos : 0 < n) (h : Text.fits n = true) :
    ¬ Uncountable n := by
  have hn := Text.fits_iff.1 h
  rintro (hlong | hlong)
  · exact Bool.false_ne_true (hlong.symm.trans h)
  · have hless := Text.not_fits_iff.1 hlong
    omega

theorem fancyChannels_faults_iff {n : Int} :
    Faults (fancyChannels n) ↔ Text.fits (n - 1) = false := by
  have hsmall : ∀ m : Int, m.natAbs < 10 ^ 100 → ¬ Text.fits m = false := by
    intro m hm hlong
    exact Bool.false_ne_true (hlong.symm.trans (Text.fits_of_natAbs_lt hm))
  unfold fancyChannels
  split
  · rename_i hone
    rw [hone]
    exact iff_of_false (not_faults_ok _) (hsmall _ (by decide))
  · split
    · rename_i htwo
      rw [htwo]
      exact iff_of_false (not_faults_ok _) (hsmall _ (by decide))
    · exact faults_map_iff.trans Text.faults_writeInt_iff

/-! ## Numbers -/

section Numbers

variable {field : Field (Option Int)} {number : Option Int} (hfield : field = .known number)

include hfield

/-- The tag of a number fails where the text of the number does. -/
theorem numberTag_faults_iff {text : Int → Except Fault String}
    {foreign : Value → Except Fault String} {P : Int → Prop}
    (htext : ∀ n, Faults (text n) ↔ P n) (hzero : ¬ P 0) :
    Faults (numberTag field text foreign) ↔ ∃ n, number = some n ∧ P n := by
  subst hfield
  cases number with
  | none => simp [numberTag]
  | some n =>
    simp only [numberTag, Option.some.injEq, exists_eq_left']
    split
    · rename_i h
      rw [h]
      exact iff_of_false (not_faults_ok _) hzero
    · rw [faults_map_iff, htext]

theorem plainTag_faults_iff :
    Faults (numberTag field Text.writeInt Value.written) ↔
      ∃ n, number = some n ∧ Text.fits n = false :=
  numberTag_faults_iff hfield (fun _ => Text.faults_writeInt_iff) (by decide)

theorem fancyTag_faults_iff :
    Faults (numberTag field fancyChannels foreignFancy) ↔
      ∃ n, number = some n ∧ Text.fits (n - 1) = false :=
  numberTag_faults_iff hfield (fun _ => fancyChannels_faults_iff) (by decide)

theorem thousandsTag_faults_iff :
    Faults (numberTag field kilobits foreignKilobits) ↔
      ∃ n, number = some n ∧ BeyondThousands n :=
  numberTag_faults_iff hfield (fun _ => kilobits_faults_iff) not_beyondThousands_zero

end Numbers

/-! ## Titles -/

/-- The codec is something else than text. -/
def Track.HasForeignCodec (t : Track) : Prop :=
  ∃ v, t.codec = .foreign v

/-- The layout of the channels is something else than text. -/
def Track.HasForeignLayout (t : Track) : Prop :=
  ∃ v, t.channelLayout = .foreign v

/-- The reasons for which the properties of a track and of its output cannot be put in a title. -/
inductive TitleFault (t : Track) (outputChannels outputBitRate : Option Int) : Prop where
  | codec (h : t.HasForeignCodec)
  | layout (h : t.HasForeignLayout)
  | channels {n : Int} (hcount : t.channels = .known n) (h : Uncountable n)
  | outputChannels {n : Int} (hcount : outputChannels = some n) (h : Uncountable n)
  | bitRate {n : Int} (hrate : t.bitRate = .known (some n)) (h : BeyondThousands n)
  | outputBitRate {n : Int} (hrate : outputBitRate = some n) (h : BeyondThousands n)

theorem not_faults_outputCodec {t : Track} {operation : Option Operation} {codec : String}
    (hcodec : t.codecText = .ok codec) : ¬ Faults (outputCodec t operation) := by
  rw [not_faults_iff]
  cases operation with
  | none => exact ⟨codec, hcodec⟩
  | some operation =>
    cases operation with
    | copy o => exact ⟨codec, hcodec⟩
    | transcode o =>
      rw [outputCodec]
      split
      · exact ⟨codec, hcodec⟩
      · exact ⟨o.codec, rfl⟩

/-- The channel count that an operation asks for. -/
def Operation.requestedChannels : Operation → Option Int
  | .copy _ => none
  | .transcode o => o.channels

/-- The count that is shown is the given one, else that of the operation, else that of the
source. -/
theorem shownChannels_known {t : Track} {n : Int} (hcount : t.channels = .known n)
    (operation : Option Operation) (given : Option Int) :
    shownChannels t operation (.known given) =
      .known (given.or ((operation.bind Operation.requestedChannels).or (some n))) := by
  have hpresent : t.channels.present = .known (some n) := by
    rw [hcount]
    rfl
  cases given with
  | some m => rfl
  | none =>
    cases operation with
    | none => exact hpresent
    | some operation =>
      cases operation with
      | copy o => exact hpresent
      | transcode o =>
        simp only [shownChannels, Operation.requestedChannels, Option.none_or, Option.bind_some]
        cases o.channels with
        | none => exact hpresent
        | some m => rfl

section Titles

variable {t : Track} (ht : t.Reported)

include ht

theorem codecText_faults_iff : Faults t.codecText ↔ t.HasForeignCodec := by
  unfold Track.codecText Track.HasForeignCodec
  cases hcodec : t.codec with
  | known codec => simp
  | foreign v => simp [ht.codec v hcodec]

theorem layout_faults_iff {fault : Fault} :
    Faults (fieldText t.channelLayout fault) ↔ t.HasForeignLayout := by
  unfold fieldText Track.HasForeignLayout
  cases hlayout : t.channelLayout with
  | known layout => simp
  | foreign v => simp [ht.layout v hlayout]

theorem tagReplacements_faults_iff {operation : Option Operation}
    {channels shown bitRate : Option Int}
    (hshown : shownChannels t operation (.known channels) = .known shown) :
    Faults (tagReplacements t operation (.known channels) (.known bitRate)) ↔
      TitleFault t shown bitRate := by
  obtain ⟨count, hchannels⟩ := ht.channels
  obtain ⟨rate, hrate⟩ := ht.bitRate
  obtain ⟨language, hlanguage⟩ := ht.language
  obtain ⟨title, htitle⟩ := ht.title
  have hcount : t.channels.present = .known (some count) := by
    rw [hchannels]
    rfl
  have hfaults : Faults (tagReplacements t operation (.known channels) (.known bitRate)) ↔
      t.HasForeignCodec ∨ (∃ n, some count = some n ∧ Text.fits n = false) ∨
        (∃ n, some count = some n ∧ Text.fits (n - 1) = false) ∨
        (∃ n, shown = some n ∧ Text.fits n = false) ∨
        (∃ n, shown = some n ∧ Text.fits (n - 1) = false) ∨
        (∃ n, rate = some n ∧ Text.fits n = false) ∨ (∃ n, rate = some n ∧ BeyondThousands n) ∨
        (∃ n, bitRate = some n ∧ Text.fits n = false) ∨
        (∃ n, bitRate = some n ∧ BeyondThousands n) ∨ t.HasForeignLayout := by
    have hlanguageText : ¬ Faults (fieldText t.languageOrUnd .noSuchPart) := by
      rw [Track.languageOrUnd, hlanguage]
      exact not_faults_ok _
    have htitleText : ¬ Faults (fieldText t.title .wrongKind) := by
      rw [htitle]
      exact not_faults_ok _
    rw [← codecText_faults_iff ht, ← layout_faults_iff ht, ← plainTag_faults_iff hcount,
      ← fancyTag_faults_iff hcount, ← plainTag_faults_iff hshown, ← fancyTag_faults_iff hshown,
      ← plainTag_faults_iff hrate, ← thousandsTag_faults_iff hrate,
      ← @plainTag_faults_iff (.known bitRate) bitRate rfl,
      ← @thousandsTag_faults_iff (.known bitRate) bitRate rfl, tagReplacements]
    -- One step for each value, in the order in which they are looked up.
    refine faults_bind_iff_right hlanguageText fun _ _ => ?_
    refine faults_bind_iff_or fun codec hcodec => ?_
    refine faults_bind_iff_right (not_faults_outputCodec hcodec) fun _ _ => ?_
    refine faults_bind_iff_or fun _ _ => ?_
    refine faults_bind_iff_or fun _ _ => ?_
    refine faults_bind_iff_or fun _ _ => ?_
    refine faults_bind_iff_or fun _ _ => ?_
    refine faults_bind_iff_or fun _ _ => ?_
    refine faults_bind_iff_or fun _ _ => ?_
    refine faults_bind_iff_or fun _ _ => ?_
    refine faults_bind_iff_or fun _ _ => ?_
    refine faults_bind_iff_right htitleText fun _ _ => ?_
    exact faults_bind_iff_left fun _ => not_faults_pure _
  rw [hfaults]
  constructor
  · rintro (h | ⟨n, ⟨⟩, h⟩ | ⟨n, ⟨⟩, h⟩ | ⟨n, hn, h⟩ | ⟨n, hn, h⟩ | ⟨n, rfl, h⟩ | ⟨n, rfl, h⟩ |
      ⟨n, hn, h⟩ | ⟨n, hn, h⟩ | h)
    · exact .codec h
    · exact .channels hchannels (.inl h)
    · exact .channels hchannels (.inr h)
    · exact .outputChannels hn (.inl h)
    · exact .outputChannels hn (.inr h)
    · exact .bitRate hrate (beyondThousands_of_not_fits h)
    · exact .bitRate hrate h
    · exact .outputBitRate hn (beyondThousands_of_not_fits h)
    · exact .outputBitRate hn h
    · exact .layout h
  · intro h
    cases h with
    | codec h => simp [h]
    | layout h => simp [h]
    | channels hn h =>
      rw [hchannels] at hn
      cases hn
      rcases h with h | h
      · simp [h]
      · simp [h]
    | outputChannels hn h =>
      rcases h with h | h
      · simp [hn, h]
      · simp [hn, h]
    | bitRate hn h =>
      rw [hrate] at hn
      cases hn
      simp [h]
    | outputBitRate hn h => simp [hn, h]

/-- The groups of a pattern are found in any title. -/
theorem not_faults_captureGroups {pattern : Option TitlePattern}
    (hpattern : ∀ p, pattern = some p → ∃ r, Regex.compile p.pattern false = .ok r) :
    ¬ Faults (captureGroups t pattern) := by
  cases pattern with
  | none => exact not_faults_pure _
  | some pattern =>
    obtain ⟨q, hq⟩ := hpattern pattern rfl
    obtain ⟨r, hr⟩ := Regex.exists_compile_of_compile hq (!pattern.caseSensitive)
    obtain ⟨title, htitle⟩ := ht.title
    have hregex : pattern.regex = .ok r := by rw [TitlePattern.regex, hr]
    have htext : t.titleText = .ok title := by rw [Track.titleText, htitle]
    rw [captureGroups, hregex, htext]
    exact not_faults_pure _

theorem expandTitle_faults_iff {template : String} {operation : Option Operation}
    {pattern : Option TitlePattern} {channels shown bitRate : Option Int}
    (hpattern : ∀ p, pattern = some p → ∃ r, Regex.compile p.pattern false = .ok r)
    (hshown : shownChannels t operation (.known channels) = .known shown) :
    Faults (expandTitle template t operation pattern (.known channels) (.known bitRate)) ↔
      TitleFault t shown bitRate := by
  have htags : Faults (tagReplacements t operation (.known channels) (.known bitRate)) ↔
      TitleFault t shown bitRate := tagReplacements_faults_iff ht hshown
  rw [expandTitle, ← htags]
  exact faults_bind_iff_right (not_faults_captureGroups ht hpattern) fun _ _ =>
    faults_bind_iff_left fun _ => not_faults_pure _

end Titles

end AudioPlan
