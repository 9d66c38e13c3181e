import AudioPlan.Proofs.Track.Limits

/-!
# Parameters in closed form

A parameter of an output track is what is wanted, cut to the ceiling of the codec.  This is said
without the tables and branches by which it is found: `mostChannels` and `greatestBitRate` are the
ceilings, `wantedChannels` is the count that is wanted, and `cutTo` cuts.

* `faults_resolveChannels_iff` and `faults_resolveBitRate_iff` say that nothing fails but the note
  on a number that is cut and has too many digits to be written (`Unnotable`);
* `resolveChannels_closedForm` and `resolveBitRate_closedForm` give the parameters;
* `resolved_closedForm` puts them together, and adds that where nothing is requested a greater
  source never gives less, and what was resolved is resolved to itself.
-/

namespace AudioPlan

/-! ## What is wanted and what is allowed -/

/-- A number cut to a ceiling, if there is one. -/
def cutTo (ceiling : Option Int) (n : Int) : Int :=
  match ceiling with
  | some c => min n c
  | none => n

/-- The ceiling of a codec in any letter case: one for AC3, one for MP3 by either name, and none for
any other. -/
def ceilingOf (ac3 mp3 : Int) (codec : String) : Option Int :=
  if Text.lowerText codec = "ac3" then some ac3
  else if Text.lowerText codec = "mp3" then some mp3
  else if Text.lowerText codec = "libmp3lame" then some mp3
  else none

/-- The most channels that a codec allows. -/
def mostChannels : String → Option Int :=
  ceilingOf 6 2

/-- The most bits per second that a codec allows. -/
def greatestBitRate : String → Option Int :=
  ceilingOf 640000 320000

/-- AAC from a source with more than six channels. -/
def NeedsSafeCount (codec : String) (source : Int) : Prop :=
  Text.lowerText codec = "aac" ∧ 6 < source

instance (codec : String) (source : Int) : Decidable (NeedsSafeCount codec source) :=
  inferInstanceAs (Decidable (_ ∧ _))

/-- The channel count that is wanted: the requested one, else eight where AAC needs it, else that of
the source. -/
def wantedChannels (codec : String) (source : Int) (requested : Option Int) : Int :=
  requested.getD (if NeedsSafeCount codec source then 8 else source)

/-- A count, of which 0 says that it is not known. -/
def knownCount (n : Int) : Option Int :=
  if n = 0 then none else some n

/-- A number that is cut to a ceiling, where a note says what it was, but that cannot be written. -/
def Unnotable (ceiling : Option Int) (n : Int) : Prop :=
  cutTo ceiling n ≠ n ∧ Text.fits n = false

/-! ## Ceilings -/

theorem lookup_ceilings (ac3 mp3 : Int) (codec : String) :
    [("ac3", ac3), ("mp3", mp3), ("libmp3lame", mp3)].lookup (Text.lowerText codec) =
      ceilingOf ac3 mp3 codec := by
  rw [ceilingOf, lookup_cons_ite, lookup_cons_ite, lookup_cons_ite, List.lookup_nil]

theorem channelCeiling_eq (codec : String) : channelCeiling codec = mostChannels codec :=
  lookup_ceilings 6 2 codec

theorem bitRateCeiling_eq (codec : String) : bitRateCeiling codec = greatestBitRate codec :=
  lookup_ceilings 640000 320000 codec

theorem cutTo_of_lt {c n : Int} (h : c < n) : cutTo (some c) n = c :=
  Int.min_eq_right (Int.le_of_lt h)

theorem cutTo_of_le {c n : Int} (h : n ≤ c) : cutTo (some c) n = n :=
  Int.min_eq_left h

theorem cutTo_mono {m n : Int} (ceiling : Option Int) (h : m ≤ n) :
    cutTo ceiling m ≤ cutTo ceiling n := by
  cases ceiling with
  | none => exact h
  | some c =>
    simp only [cutTo]
    omega

theorem cutTo_cutTo (ceiling : Option Int) (n : Int) :
    cutTo ceiling (cutTo ceiling n) = cutTo ceiling n := by
  cases ceiling with
  | none => rfl
  | some c =>
    simp only [cutTo]
    omega

theorem cutTo_ne_iff {ceiling : Option Int} {n : Int} :
    cutTo ceiling n ≠ n ↔ ∃ c, ceiling = some c ∧ c < n := by
  cases ceiling with
  | none => simp [cutTo]
  | some c =>
    simp only [cutTo, Option.some.injEq, exists_eq_left']
    omega

theorem not_unnotable_cutTo (ceiling : Option Int) (n : Int) :
    ¬ Unnotable ceiling (cutTo ceiling n) :=
  fun h => h.1 (cutTo_cutTo ceiling n)

theorem not_unnotable_of_natAbs_lt {ceiling : Option Int} {n : Int} (h : n.natAbs < 10 ^ 100) :
    ¬ Unnotable ceiling n :=
  fun hlong => Bool.false_ne_true (hlong.2.symm.trans (Text.fits_of_natAbs_lt h))

theorem faults_cutNumber_iff_unnotable {codec unit : String} {ceiling : Option Int} {n : Int}
    {within : Resolved (Option Int)} :
    Faults (cutNumber codec ceiling unit n within) ↔ Unnotable ceiling n := by
  rw [faults_cutNumber_iff, Unnotable, cutTo_ne_iff]
  constructor
  · rintro ⟨c, hc, habove, hlong⟩
    exact ⟨⟨c, hc, habove⟩, hlong⟩
  · rintro ⟨⟨c, hc, habove⟩, hlong⟩
    exact ⟨c, hc, habove, hlong⟩

/-- What comes of a number is told if it is cut. -/
theorem cutNumber_eq_ok {codec unit : String} {ceiling : Option Int} {n : Int}
    {within r : Resolved (Option Int)} (h : cutNumber codec ceiling unit n within = .ok r) :
    (r = within ∧ cutTo ceiling n = n) ∨
    (∃ note, r = ⟨some (cutTo ceiling n), true, some note⟩) ∧ cutTo ceiling n ≠ n := by
  rcases cutNumber_cases h with ⟨rfl, hle⟩ | ⟨c, note, rfl, habove, rfl⟩
  · refine .inl ⟨rfl, ?_⟩
    cases ceiling with
    | none => rfl
    | some c => exact cutTo_of_le (hle c rfl)
  · rw [cutTo_of_lt habove]
    exact .inr ⟨⟨note, rfl⟩, Int.ne_of_lt habove⟩

theorem knownCount_of_pos {n : Int} (hn : 0 < n) : knownCount n = some n :=
  if_neg (Int.ne_of_gt hn)

theorem knownCount_getD (n : Int) : (knownCount n).getD 0 = n := by
  rw [knownCount]
  split
  · rename_i hzero
    exact hzero.symm
  · rfl

theorem knownCount_mono {m n : Int} (hm : 0 ≤ m) (h : m ≤ n) : knownCount m ≤ knownCount n := by
  rcases Int.lt_or_eq_of_le hm with hpos | rfl
  · rw [knownCount_of_pos hpos, knownCount_of_pos (Int.lt_of_lt_of_le hpos h)]
    exact Option.some_le_some.2 h
  · exact Option.none_le

/-! ## Channel counts -/

section Channels

variable {codec : String} {source : Int}

/-- No ceiling cuts a positive number down to nothing. -/
theorem cutTo_channelCeiling_pos (codec : String) {n : Int} (hn : 0 < n) :
    0 < cutTo (channelCeiling codec) n := by
  cases hceiling : channelCeiling codec with
  | none => exact hn
  | some c => exact Int.lt_min.2 ⟨hn, channelCeiling_pos hceiling⟩

theorem cutTo_channelCeiling_nonneg (codec : String) {n : Int} (hn : 0 ≤ n) :
    0 ≤ cutTo (channelCeiling codec) n := by
  cases hceiling : channelCeiling codec with
  | none => exact hn
  | some c => exact Int.le_min.2 ⟨hn, Int.le_of_lt (channelCeiling_pos hceiling)⟩

theorem wantedChannels_of_aac (h : Text.lowerText codec = "aac") (source : Int) :
    wantedChannels codec source none = if 6 < source then 8 else source := by
  simp only [wantedChannels, Option.getD_none, NeedsSafeCount, h, true_and]

theorem wantedChannels_of_not_aac (h : Text.lowerText codec ≠ "aac") (source : Int) :
    wantedChannels codec source none = source :=
  if_neg fun hsafe => h hsafe.1

/-- AAC is forced to the safe count exactly where it needs it and nothing is requested. -/
theorem forced_eq (codec : String) (source : Int) :
    (isAac codec && decide (aacSafeThreshold < source) && (none : Option Int).isNone) =
      decide (NeedsSafeCount codec source) := by
  rw [Option.isNone_none, Bool.and_true, Bool.eq_iff_iff, Bool.and_eq_true, isAac, beq_iff_eq,
    decide_eq_true_eq, decide_eq_true_eq]
  exact Iff.rfl

/-- The count that is wanted is cut to the ceiling; within it, it is told if it was requested or is
the safe one. -/
theorem resolveChannels_eq (codec : String) (source : Int) (requested : Option Int) :
    ∃ note, resolveChannels codec source requested =
      cutNumber codec (channelCeiling codec) channelUnit (wantedChannels codec source requested)
        (if requested ≠ none ∨ NeedsSafeCount codec source then
          ⟨some (wantedChannels codec source requested), true, note⟩
        else ⟨knownCount source, false, none⟩) := by
  cases requested with
  | some n =>
    refine ⟨none, ?_⟩
    rw [if_pos (.inl (Option.some_ne_none n)), resolveChannels, Option.isNone_some, Bool.and_false,
      if_neg Bool.false_ne_true]
    rfl
  | none =>
    rw [resolveChannels, forced_eq, wantedChannels, Option.getD_none]
    by_cases hsafe : NeedsSafeCount codec source
    · have hsettle : resolveChannels.settle source none true 8 = ⟨some 8, true, some safeNote⟩ := by
        rw [resolveChannels.settle, Bool.or_true, if_pos rfl, if_pos rfl]
      refine ⟨some safeNote, ?_⟩
      rw [if_pos (Or.inr hsafe), if_pos hsafe, decide_eq_true hsafe, Option.getD_none, ← hsettle]
      rfl
    · have hsettle : resolveChannels.settle source none false source =
          ⟨knownCount source, false, none⟩ := by
        rw [resolveChannels.settle, Option.isSome_none, bne_self_eq_false, if_neg (by decide)]
        rfl
      have huntold : ¬ ((none : Option Int) ≠ none ∨ NeedsSafeCount codec source) := by
        simp [hsafe]
      refine ⟨none, ?_⟩
      rw [if_neg huntold, if_neg hsafe, decide_eq_false hsafe, Option.getD_none, ← hsettle]
      rfl

/-- Resolving a count fails only on one that is cut and cannot be written. -/
theorem faults_resolveChannels_iff {requested : Option Int} :
    Faults (resolveChannels codec source requested) ↔
      Unnotable (mostChannels codec) (wantedChannels codec source requested) := by
  obtain ⟨note, heq⟩ := resolveChannels_eq codec source requested
  rw [heq, faults_cutNumber_iff_unnotable, channelCeiling_eq]

/-- What is wanted is cut to the ceiling.  The encoder is told it if it was requested, if it is not
the count of the source, or if it is the safe count. -/
theorem resolveChannels_closedForm {requested : Option Int} {r : Resolved (Option Int)}
    (h : resolveChannels codec source requested = .ok r)
    (hrequested : ∀ n, requested = some n → 0 < n) :
    r.value = knownCount (cutTo (mostChannels codec) (wantedChannels codec source requested)) ∧
      (r.emit = true ↔
        requested ≠ none ∨
          cutTo (mostChannels codec) (wantedChannels codec source requested) ≠ source ∨
          (NeedsSafeCount codec source ∧ requested = none)) := by
  rw [← channelCeiling_eq]
  obtain ⟨note, heq⟩ := resolveChannels_eq codec source requested
  rw [heq] at h
  by_cases htold : requested ≠ none ∨ NeedsSafeCount codec source
  · -- What is told for a reason of its own is positive, and so is what is left of it.
    have hpos : 0 < wantedChannels codec source requested := by
      cases requested with
      | some n => exact hrequested n rfl
      | none =>
        rw [wantedChannels, Option.getD_none, if_pos (htold.resolve_left fun h => h rfl)]
        decide
    rw [if_pos htold] at h
    rw [knownCount_of_pos (cutTo_channelCeiling_pos codec hpos)]
    have hemit : requested ≠ none ∨
        cutTo (channelCeiling codec) (wantedChannels codec source requested) ≠ source ∨
        (NeedsSafeCount codec source ∧ requested = none) := by
      cases requested with
      | some n => exact .inl (Option.some_ne_none n)
      | none => exact .inr (.inr ⟨htold.resolve_left fun h => h rfl, rfl⟩)
    rcases cutNumber_eq_ok h with ⟨rfl, hcut⟩ | ⟨⟨note, rfl⟩, -⟩
    · rw [hcut] at hemit ⊢
      exact ⟨rfl, iff_of_true rfl hemit⟩
    · exact ⟨rfl, iff_of_true rfl hemit⟩
  · obtain ⟨hgiven, hunsafe⟩ := not_or.1 htold
    have hnone : requested = none := Classical.not_not.1 hgiven
    have hwanted : wantedChannels codec source requested = source := by
      rw [wantedChannels, hnone, Option.getD_none, if_neg hunsafe]
    rw [if_neg htold, hwanted] at h
    rw [hwanted]
    rcases cutNumber_eq_ok h with ⟨rfl, hcut⟩ | ⟨⟨note, rfl⟩, hcut⟩
    · rw [hcut]
      exact ⟨rfl, by simp [hnone, hunsafe]⟩
    · obtain ⟨c, hc, habove⟩ := cutTo_ne_iff.1 hcut
      rw [hc, cutTo_of_lt habove, knownCount_of_pos (channelCeiling_pos hc)]
      exact ⟨rfl, iff_of_true rfl (.inr (.inl (Int.ne_of_lt habove)))⟩

theorem resolveChannels_value_none {r : Resolved (Option Int)}
    (h : resolveChannels codec source none = .ok r) :
    r.value = knownCount (cutTo (mostChannels codec) (wantedChannels codec source none)) :=
  (resolveChannels_closedForm h nofun).1

/-- A source with more channels never gives fewer. -/
theorem resolveChannels_mono {m n : Int} {r s : Resolved (Option Int)} (hm : 0 ≤ m) (hmn : m ≤ n)
    (hr : resolveChannels codec m none = .ok r) (hs : resolveChannels codec n none = .ok s) :
    r.value ≤ s.value := by
  have hwanted : 0 ≤ wantedChannels codec m none ∧
      wantedChannels codec m none ≤ wantedChannels codec n none := by
    by_cases haac : Text.lowerText codec = "aac"
    · rw [wantedChannels_of_aac haac, wantedChannels_of_aac haac]
      omega
    · rw [wantedChannels_of_not_aac haac, wantedChannels_of_not_aac haac]
      exact ⟨hm, hmn⟩
  rw [resolveChannels_value_none hr, resolveChannels_value_none hs]
  refine knownCount_mono ?_ (cutTo_mono _ hwanted.2)
  rw [← channelCeiling_eq]
  exact cutTo_channelCeiling_nonneg codec hwanted.1

/-- What is wanted of a count that was resolved is that count. -/
theorem wantedChannels_cutTo (codec : String) (n : Int) :
    wantedChannels codec (cutTo (mostChannels codec) (wantedChannels codec n none)) none =
      cutTo (mostChannels codec) (wantedChannels codec n none) := by
  by_cases haac : Text.lowerText codec = "aac"
  · have hmost : mostChannels codec = none := by
      rw [← channelCeiling_eq, channelCeiling_of_isAac (beq_iff_eq.2 haac)]
    rw [hmost, wantedChannels_of_aac haac, wantedChannels_of_aac haac]
    simp only [cutTo]
    omega
  · rw [wantedChannels_of_not_aac haac, wantedChannels_of_not_aac haac]

/-- A resolved count is resolved to itself, where 0 stands for one that is not known. -/
theorem resolveChannels_resolved_again {n : Int} {r : Resolved (Option Int)}
    (h : resolveChannels codec n none = .ok r) :
    ∃ s, resolveChannels codec (r.value.getD 0) none = .ok s ∧ s.value = r.value := by
  have hvalue := resolveChannels_value_none h
  rw [hvalue, knownCount_getD]
  have hok : ¬ Faults
      (resolveChannels codec (cutTo (mostChannels codec) (wantedChannels codec n none)) none) := by
    rw [faults_resolveChannels_iff, wantedChannels_cutTo]
    exact not_unnotable_cutTo _ _
  obtain ⟨s, hs⟩ := not_faults_iff.1 hok
  refine ⟨s, hs, ?_⟩
  rw [resolveChannels_value_none hs, wantedChannels_cutTo, cutTo_cutTo]

end Channels

/-! ## Bit rates -/

section BitRates

variable {codec : String}

/-- Resolving a bit rate fails only on one that is cut and cannot be written. -/
theorem faults_resolveBitRate_iff {source requested : Option Int} :
    Faults (resolveBitRate codec source requested) ↔
      ∃ n, requested.or source = some n ∧ Unnotable (greatestBitRate codec) n := by
  rw [resolveBitRate_eq, ← bitRateCeiling_eq]
  cases requested with
  | some n => simp [faults_cutNumber_iff_unnotable]
  | none =>
    cases source with
    | none => simp
    | some n => simp [faults_cutNumber_iff_unnotable]

/-- The requested rate, else that of the source, is cut to the ceiling.  The encoder is told it if
it was requested or cut. -/
theorem resolveBitRate_closedForm {source requested : Option Int} {r : Resolved (Option Int)}
    (h : resolveBitRate codec source requested = .ok r) :
    r.value = (requested.or source).map (cutTo (greatestBitRate codec)) ∧
      (r.emit = true ↔
        requested ≠ none ∨
          (requested.or source).map (cutTo (greatestBitRate codec)) ≠ requested.or source) := by
  rw [resolveBitRate_eq] at h
  rw [← bitRateCeiling_eq]
  cases requested with
  | some n =>
    rw [Option.some_or, Option.map_some]
    rcases cutNumber_eq_ok h with ⟨rfl, hcut⟩ | ⟨⟨note, rfl⟩, -⟩
    · rw [hcut]
      exact ⟨rfl, by simp⟩
    · exact ⟨rfl, by simp⟩
  | none =>
    rw [Option.none_or]
    cases source with
    | none =>
      cases h
      exact ⟨rfl, by simp⟩
    | some n =>
      rw [Option.map_some]
      rcases cutNumber_eq_ok h with ⟨rfl, hcut⟩ | ⟨⟨note, rfl⟩, hcut⟩
      · rw [hcut]
        exact ⟨rfl, by simp⟩
      · exact ⟨rfl, by simp [hcut]⟩

theorem resolveBitRate_value_none {source : Option Int} {r : Resolved (Option Int)}
    (h : resolveBitRate codec source none = .ok r) :
    r.value = source.map (cutTo (greatestBitRate codec)) :=
  (resolveBitRate_closedForm h).1

/-- A source with a greater bit rate never gives a smaller one. -/
theorem resolveBitRate_mono {a b : Option Int} {r s : Resolved (Option Int)} (hab : a ≤ b)
    (hr : resolveBitRate codec a none = .ok r) (hs : resolveBitRate codec b none = .ok s) :
    r.value ≤ s.value := by
  rw [resolveBitRate_value_none hr, resolveBitRate_value_none hs]
  cases a with
  | none => exact Option.none_le
  | some m =>
    cases b with
    | none => exact absurd hab Option.not_some_le_none
    | some n => exact Option.some_le_some.2 (cutTo_mono _ (Option.some_le_some.1 hab))

/-- A resolved bit rate is resolved to itself. -/
theorem resolveBitRate_resolved_again {source : Option Int} {r : Resolved (Option Int)}
    (h : resolveBitRate codec source none = .ok r) :
    ∃ s, resolveBitRate codec r.value none = .ok s ∧ s.value = r.value := by
  rw [resolveBitRate_value_none h]
  have hok : ¬ Faults (resolveBitRate codec (source.map (cutTo (greatestBitRate codec))) none) := by
    rw [faults_resolveBitRate_iff]
    rintro ⟨n, hn, hlong⟩
    obtain ⟨m, -, rfl⟩ := Option.map_eq_some_iff.1 hn
    exact not_unnotable_cutTo _ m hlong
  obtain ⟨s, hs⟩ := not_faults_iff.1 hok
  refine ⟨s, hs, ?_⟩
  rw [resolveBitRate_value_none hs, Option.map_map]
  exact congrArg (source.map ·) (funext fun n => cutTo_cutTo _ n)

end BitRates

/-! ## Both parameters -/

/-- Channel counts and bit rates are what is wanted, cut to the ceiling of the codec, and the
encoder is told of them as described; they fail to be resolved only where a number is cut that
cannot be written.  Where nothing is requested, a greater source never gives less, and what was
resolved is resolved to itself. -/
theorem resolved_closedForm (codec : String) :
    (∀ (source : Int) (requested : Option Int), (∀ n, requested = some n → 0 < n) →
      let wanted := wantedChannels codec source requested
      let count := cutTo (mostChannels codec) wanted
      (Faults (resolveChannels codec source requested) ↔ Unnotable (mostChannels codec) wanted) ∧
        ∀ r, resolveChannels codec source requested = .ok r →
          r.value = knownCount count ∧
            (r.emit = true ↔
              requested ≠ none ∨ count ≠ source ∨
                (NeedsSafeCount codec source ∧ requested = none))) ∧
      (∀ source requested : Option Int,
        let rate := (requested.or source).map (cutTo (greatestBitRate codec))
        (Faults (resolveBitRate codec source requested) ↔
          ∃ n, requested.or source = some n ∧ Unnotable (greatestBitRate codec) n) ∧
          ∀ r, resolveBitRate codec source requested = .ok r →
            r.value = rate ∧ (r.emit = true ↔ requested ≠ none ∨ rate ≠ requested.or source)) ∧
      (∀ m n : Int, 0 ≤ m → m ≤ n → ∀ r s,
        resolveChannels codec m none = .ok r → resolveChannels codec n none = .ok s →
          r.value ≤ s.value) ∧
      (∀ a b : Option Int, a ≤ b → ∀ r s,
        resolveBitRate codec a none = .ok r → resolveBitRate codec b none = .ok s →
          r.value ≤ s.value) ∧
      (∀ n r, resolveChannels codec n none = .ok r →
        ∃ s, resolveChannels codec (r.value.getD 0) none = .ok s ∧ s.value = r.value) ∧
      ∀ source r, resolveBitRate codec source none = .ok r →
        ∃ s, resolveBitRate codec r.value none = .ok s ∧ s.value = r.value := by
  refine ⟨?_, ?_, ?_, ?_, ?_, ?_⟩
  · intro source requested hrequested
    exact ⟨faults_resolveChannels_iff, fun r h => resolveChannels_closedForm h hrequested⟩
  · intro source requested
    exact ⟨faults_resolveBitRate_iff, fun r h => resolveBitRate_closedForm h⟩
  · intro m n hm hmn r s hr hs
    exact resolveChannels_mono hm hmn hr hs
  · intro a b hab r s hr hs
    exact resolveBitRate_mono hab hr hs
  · intro n r h
    exact resolveChannels_resolved_again h
  · intro source r h
    exact resolveBitRate_resolved_again h

/-- AC3 cuts eight requested channels to six, and a source of 768000 bits per second to 640000.  AAC
from seven channels gets the safe count, which is no less than it gets from six, and it keeps the
bit rates of its sources in their order; what it got from seven channels it gets again. -/
theorem resolved_closedForm_ac3 :
    (∃ r, resolveChannels "Ac3" 2 (some 8) = .ok r ∧ r.value = some 6 ∧ r.emit = true) ∧
      (∃ r, resolveBitRate "Ac3" (some 768000) none = .ok r ∧ r.value = some 640000) ∧
      (∃ r s, resolveChannels "AAC" 6 none = .ok r ∧ resolveChannels "AAC" 7 none = .ok s ∧
        s.value = some 8 ∧ r.value ≤ s.value ∧
        ∃ again, resolveChannels "AAC" (s.value.getD 0) none = .ok again ∧
          again.value = s.value) ∧
      ∃ r s, resolveBitRate "AAC" (some 96000) none = .ok r ∧
        resolveBitRate "AAC" (some 128000) none = .ok s ∧ r.value ≤ s.value := by
  have hrequested : ∀ n, some (8 : Int) = some n → 0 < n := by
    intro n hn
    rw [← Option.some.inj hn]
    decide
  have hac3 : wantedChannels "Ac3" 2 (some 8) = 8 ∧ cutTo (mostChannels "Ac3") 8 = 6 := by
    decide +kernel
  have haac : wantedChannels "AAC" 6 none = 6 ∧ wantedChannels "AAC" 7 none = 8 ∧
      cutTo (mostChannels "AAC") 8 = 8 := by
    decide +kernel
  have hrate : cutTo (greatestBitRate "Ac3") 768000 = 640000 := by decide +kernel
  obtain ⟨hchannels, hrates, -⟩ := resolved_closedForm "Ac3"
  obtain ⟨haacChannels, haacRates, hchannelMono, hrateMono, hagain, -⟩ := resolved_closedForm "AAC"
  obtain ⟨hcut, hresolved⟩ := hchannels 2 (some 8) hrequested
  obtain ⟨hcutRate, hresolvedRate⟩ := hrates (some 768000) none
  obtain ⟨hcutSix, -⟩ := haacChannels 6 none nofun
  obtain ⟨hcutSeven, hresolvedSeven⟩ := haacChannels 7 none nofun
  have hwritable : ∀ {ceiling : Option Int} {n : Int}, n.natAbs < 10 ^ 100 →
      ¬ Unnotable ceiling n := not_unnotable_of_natAbs_lt
  have hrateWritable : ∀ {ceiling : Option Int} {n : Int}, n.natAbs < 10 ^ 100 →
      ¬ ∃ m, (none : Option Int).or (some n) = some m ∧ Unnotable ceiling m := by
    rintro ceiling n hn ⟨m, hm, hlong⟩
    cases hm
    exact hwritable hn hlong
  rw [hac3.1] at hcut hresolved
  rw [hac3.2] at hresolved
  rw [haac.1] at hcutSix
  rw [haac.2.1] at hcutSeven hresolvedSeven
  rw [haac.2.2] at hresolvedSeven
  obtain ⟨r, hr⟩ := not_faults_iff.1 (mt hcut.1 (hwritable (by decide)))
  obtain ⟨rate, hrateOk⟩ := not_faults_iff.1 (mt hcutRate.1 (hrateWritable (by decide)))
  obtain ⟨six, hsix⟩ := not_faults_iff.1 (mt hcutSix.1 (hwritable (by decide)))
  obtain ⟨seven, hseven⟩ := not_faults_iff.1 (mt hcutSeven.1 (hwritable (by decide)))
  obtain ⟨low, hlow⟩ :=
    not_faults_iff.1 (mt (haacRates (some 96000) none).1.1 (hrateWritable (by decide)))
  obtain ⟨high, hhigh⟩ :=
    not_faults_iff.1 (mt (haacRates (some 128000) none).1.1 (hrateWritable (by decide)))
  refine ⟨⟨r, hr, (hresolved r hr).1, (hresolved r hr).2.2 (.inl (Option.some_ne_none 8))⟩,
    ⟨rate, hrateOk, ?_⟩, ⟨six, seven, hsix, hseven, (hresolvedSeven seven hseven).1, ?_,
      hagain 7 seven hseven⟩, ⟨low, high, hlow, hhigh, ?_⟩⟩
  · exact (hresolvedRate rate hrateOk).1.trans (congrArg some hrate)
  · exact hchannelMono 6 7 (by decide) (by decide) six seven hsix hseven
  · exact hrateMono (some 96000) (some 128000) (Option.some_le_some.2 (by decide)) low high hlow
      hhigh

end AudioPlan
