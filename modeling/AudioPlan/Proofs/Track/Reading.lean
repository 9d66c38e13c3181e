import AudioPlan.Proofs.Rule.Grammar
import AudioPlan.Proofs.Track.Matching

/-!
# Which rule of a document applies

What a rule document says of a track, read off the document as it was written (`RuleAccepts`), and
that the rule that applies is the first one in the document that accepts the track
(`findRule_first`).

Validation turns each part of a document into another form: it puts codecs in lower case, takes
conditions apart, makes truth values of words and collapses backslashes.  For each part there is one
lemma which says that the form it gets and the text in the document accept the same tracks.
-/

namespace AudioPlan

open Json (Decoded)

/-! ## What a document says -/

/-- Codecs accept all names, all but one, or those of a list, whatever the letter case. -/
def CodecsAccept (name : String) (v : Value) : Prop :=
  v = .text "*" ∨ (∃ other, v = .text ("!" ++ other) ∧ name ≠ Text.lowerText other) ∨
    ∃ codecs : List String, v = .list (codecs.map .text) ∧
      ∃ codec ∈ codecs, name = Text.lowerText codec

/-- Every text spells a condition that the number meets; a number that is not known meets none. -/
def ConditionsHold (number : Option Int) (v : Value) : Prop :=
  ∃ texts, TextsOf v texts ∧
    ∀ s ∈ texts, ∃ c : Condition, c.SpelledBy s ∧ ∃ n, number = some n ∧ c.Holds n

/-- The language is one of the texts. -/
def LanguagesName (language : String) (v : Value) : Prop :=
  ∃ texts, TextsOf v texts ∧ language ∈ texts

/-- Every flag of the object is there with the value that it denotes. -/
def FlagsHold (flags : List (String × Int)) (v : Value) : Prop :=
  ∃ entries, v = .map entries ∧ ∀ entry ∈ entries, ∃ b : Bool, DenotesTruth entry.2 b ∧
    flags.lookup entry.1 = some (b.toNat : Int)

/-- The object asks for the letter case to count. -/
def AsksForCase (entries : List (String × Value)) : Prop :=
  ∃ key ∈ ["caseSensitive", "case_sensitive"], entries.lookup key = some (.bool true)

/-- The pattern, in normal form and without regard to case unless asked for, is found in the
title. -/
def PatternFound (title : String) (v : Value) : Prop :=
  ∃ entries pattern caseSensitive r, v = .map entries ∧
    entries.lookup "pattern" = some (.text pattern) ∧
    (caseSensitive = true ↔ AsksForCase entries) ∧
    Regex.compile (normalizePattern pattern) (!caseSensitive) = .ok r ∧
    (r.search title).isSome = true

/-- Criteria accept a track if all of those that are given do. -/
def CriteriaAccept (f : Track.Facts) (v : Value) : Prop :=
  ∃ entries, v = .map entries ∧
    Has (CodecsAccept f.codecName) "codecs" entries ∧
    MayHave (OrNull (ConditionsHold (some f.channels))) "channels" entries ∧
    MayHave (OrNull (ConditionsHold f.bitRate)) "bitrate" entries ∧
    MayHave (OrNull (LanguagesName f.languageOrUnd)) "languages" entries ∧
    MayHave (OrNull (FlagsHold f.flags)) "dispositions" entries ∧
    MayHave (OrNull (PatternFound f.title)) "title" entries

/-- A rule accepts a track if its criteria do. -/
def RuleAccepts (f : Track.Facts) (v : Value) : Prop :=
  ∃ entries, v = .map entries ∧ Has (CriteriaAccept f) "match" entries

/-! ## Reading fields -/

section Fields

variable {α : Type} {check : Value → Checked α} {form : Value → Prop}
  {entries : List (String × Value)} {key : String} {a : α} {P : Prop}

theorem required_reading (h : required key check (textKeys entries) = .good a)
    (hcheck : ∀ v, entries.lookup key = some v → check v = .good a → (P ↔ form v)) :
    P ↔ Has form key entries := by
  obtain ⟨v, hv, ha⟩ := required_eq_good.1 h
  rw [fieldNamed_textKeys] at hv
  rw [hcheck v hv ha]
  constructor
  · intro hform
    exact ⟨v, hv, hform⟩
  · rintro ⟨w, hw, hform⟩
    rw [hv] at hw
    cases hw
    exact hform

theorem optional_reading {default : α} (h : optional key default check (textKeys entries) = .good a)
    (hdefault : a = default → P)
    (hcheck : ∀ v, entries.lookup key = some v → check v = .good a → (P ↔ form v)) :
    P ↔ MayHave form key entries := by
  rcases optional_eq_good.1 h with ⟨hnone, hdef⟩ | ⟨v, hv, ha⟩
  · rw [fieldNamed_textKeys] at hnone
    refine iff_of_true (hdefault hdef) ?_
    intro v hv
    rw [hnone] at hv
    cases hv
  · rw [fieldNamed_textKeys] at hv
    rw [hcheck v hv ha]
    constructor
    · intro hform w hw
      rw [hv] at hw
      cases hw
      exact hform
    · intro hform
      exact hform v hv

theorem nullable_reading {v : Value} {o : Option α} {Q : α → Prop}
    (h : nullable check v = .good o)
    (hcheck : ∀ a, check v = .good a → (Q a ↔ form v)) :
    (∀ a, o = some a → Q a) ↔ OrNull form v := by
  rcases nullable_eq_good.1 h with ⟨hnull, rfl⟩ | ⟨hnull, a, ha, rfl⟩
  · exact iff_of_true (by simp) (.inl hnull)
  · rw [OrNull, or_iff_right hnull, ← hcheck a ha]
    simp

end Fields

/-! ## Reading values -/

theorem codecs_reading {v : Value} {selector : Selector} (h : checkCodecs v = .good selector)
    (name : String) : selector.accepts name = true ↔ CodecsAccept name v := by
  cases checkCodecs_eq_good.1 h with
  | anyOf codecs =>
    simp only [Selector.accepts, decide_eq_true_eq, List.mem_map]
    constructor
    · rintro ⟨codec, hcodec, heq⟩
      exact .inr (.inr ⟨codecs, rfl, codec, hcodec, heq.symm⟩)
    · rintro (h | ⟨other, h, -⟩ | ⟨others, h, codec, hcodec, heq⟩)
      · cases h
      · cases h
      · rw [← (List.map_inj_right fun _ _ => Value.text.inj).1 (Value.list.inj h)] at hcodec
        exact ⟨codec, hcodec, heq.symm⟩
  | all => exact iff_of_true rfl (.inl rfl)
  | @allExcept codec hcodec =>
    simp only [Selector.accepts, bne_iff_ne]
    constructor
    · intro hne
      exact .inr (.inl ⟨codec, rfl, hne⟩)
    · rintro (h | ⟨other, h, hne⟩ | ⟨others, h, -⟩)
      · exact absurd h.symm (star_ne_append codec)
      · rw [codec_inj h]
        exact hne
      · cases h

theorem conditions_reading {field : String} {v : Value} {conditions : List Condition}
    (h : checkConditions field v = .good conditions) (number : Option Int) :
    (∀ x ∈ conditions, ∃ n, number = some n ∧ x.Holds n) ↔
      OrNull (ConditionsHold number) v := by
  rcases checkConditions_eq_good.1 h with ⟨hnull, rfl⟩ | ⟨texts, htexts, hspelled⟩
  · exact iff_of_true (by simp) (.inl hnull)
  · have hnull : v ≠ .null := by
      rintro rfl
      cases htexts
    rw [OrNull, or_iff_right hnull, Checked.forall_mem_iff_of_forall₂ hspelled
      fun _ _ _ _ hc hd => Condition.SpelledBy.unique hc hd]
    constructor
    · intro hall
      exact ⟨texts, htexts, hall⟩
    · rintro ⟨others, hothers, hall⟩
      rw [htexts.unique hothers]
      exact hall

theorem languages_reading {field : String} {v : Value} {languages : List String}
    (h : checkTexts field v = .good languages) (language : String) :
    language ∈ languages ↔ LanguagesName language v := by
  have htexts := checkTexts_eq_good.1 h
  constructor
  · intro hmem
    exact ⟨languages, htexts, hmem⟩
  · rintro ⟨others, hothers, hmem⟩
    rw [htexts.unique hothers]
    exact hmem

theorem flags_reading {v : Value} (hv : Decoded v) {o : Option (List (String × Bool))}
    (h : checkDispositions v = .good o) (flags : List (String × Int)) :
    (∀ asked, o = some asked →
      ∀ flag ∈ asked, flags.lookup flag.1 = some (flag.2.toNat : Int)) ↔
        OrNull (FlagsHold flags) v := by
  rcases (checkDispositions_eq_good hv).1 h with
    ⟨hnull, rfl⟩ | ⟨asked, ⟨entries, rfl, hentries⟩, rfl⟩
  · exact iff_of_true (by simp) (.inl hnull)
  · -- Each entry is read as one flag only, so the flags may be asked for entry by entry.
    have hunique : ∀ entry ∈ entries, ∀ flag flag' : String × Bool,
        (entry.1 = flag.1 ∧ DenotesTruth entry.2 flag.2) →
          (entry.1 = flag'.1 ∧ DenotesTruth entry.2 flag'.2) → flag = flag' := by
      rintro entry hentry flag flag' ⟨hkey, hb⟩ ⟨hkey', hb'⟩
      exact Prod.ext (hkey.symm.trans hkey') (hb.unique (hv.of_mem_map entry hentry) hb')
    have hall := Checked.forall_mem_iff_of_forall₂ hentries hunique
      (P := fun flag => flags.lookup flag.1 = some (flag.2.toNat : Int))
    simp only [Option.some.injEq, forall_eq', OrNull, reduceCtorEq, false_or, hall]
    constructor
    · intro h
      refine ⟨entries, rfl, fun entry hentry => ?_⟩
      obtain ⟨flag, ⟨hkey, hb⟩, hlookup⟩ := h entry hentry
      exact ⟨flag.2, hb, by rw [hkey]; exact hlookup⟩
    · rintro ⟨others, hothers, h⟩ entry hentry
      cases hothers
      obtain ⟨b, hb, hlookup⟩ := h entry hentry
      exact ⟨(entry.1, b), ⟨rfl, hb⟩, hlookup⟩

/-- Of the two keys for case sensitivity an object has at most the one that counts. -/
theorem asksForCase_iff {entries : List (String × Value)} {caseSensitive : Bool}
    (hstrays : strays ["pattern", caseKey (textKeys entries)] (textKeys entries) = .good ())
    (hcase : optional (caseKey (textKeys entries)) false checkTruth (textKeys entries) =
      .good caseSensitive) : caseSensitive = true ↔ AsksForCase entries := by
  have hkeys := strays_textKeys.1 hstrays
  constructor
  · rintro rfl
    rcases optional_eq_good.1 hcase with ⟨-, hfalse⟩ | ⟨v, hv, htrue⟩
    · cases hfalse
    · rw [checkTruth_eq_good.1 htrue, fieldNamed_textKeys] at hv
      exact ⟨_, caseKey_mem _, hv⟩
  · rintro ⟨key, hkey, hlookup⟩
    -- The other spelling would be a stray key.
    have hsame : key = caseKey (textKeys entries) := by
      have hmem := hkeys _ (mem_of_lookup_eq_some hlookup)
      simp only [List.mem_cons, List.not_mem_nil, or_false] at hkey hmem
      rcases hmem with rfl | hmem
      · exact absurd hkey (by decide)
      · exact hmem
    rcases optional_eq_good.1 hcase with ⟨hnone, -⟩ | ⟨v, hv, hread⟩
    · rw [fieldNamed_textKeys, ← hsame, hlookup] at hnone
      cases hnone
    · rw [fieldNamed_textKeys, ← hsame, hlookup] at hv
      cases hv
      exact (Value.bool.inj (checkTruth_eq_good.1 hread)).symm

theorem title_reading {v : Value} (hv : Decoded v) {p : TitlePattern}
    (h : checkTitle v = .good p) (title : String) :
    (∃ r, Regex.compile p.pattern (!p.caseSensitive) = .ok r ∧ (r.search title).isSome = true) ↔
      PatternFound title v := by
  obtain ⟨_, hentries, hstrays, hpattern, hcase⟩ := checkTitle_eq_good.1 h
  obtain ⟨entries, rfl, rfl⟩ := (fields?_eq_some_iff hv).1 hentries
  have hasks := asksForCase_iff hstrays hcase
  obtain ⟨w, hw, hread⟩ := required_eq_good.1 hpattern
  obtain ⟨s, rfl, hnormal, -⟩ := checkPattern_eq_good.1 hread
  rw [fieldNamed_textKeys] at hw
  constructor
  · rintro ⟨r, hr, hfound⟩
    rw [hnormal] at hr
    exact ⟨entries, s, p.caseSensitive, r, rfl, hw, hasks, hr, hfound⟩
  · rintro ⟨others, pattern, caseSensitive, r, heq, hlookup, hasks', hr, hfound⟩
    cases heq
    rw [hw] at hlookup
    cases hlookup
    rw [Bool.eq_iff_iff.2 (hasks'.trans hasks.symm), ← hnormal] at hr
    exact ⟨r, hr, hfound⟩

/-! ## Reading rules -/

theorem criteria_reading {v : Value} (hv : Decoded v) {c : Criteria}
    (h : checkCriteria v = .good c) (f : Track.Facts) : c.Accepts f ↔ CriteriaAccept f v := by
  obtain ⟨_, hentries, -, hcodecs, hchannels, hbitRate, hlanguages, hflags, htitle⟩ :=
    checkCriteria_eq_good.1 h
  obtain ⟨entries, rfl, rfl⟩ := (fields?_eq_some_iff hv).1 hentries
  have codecs : _ ↔ Has (CodecsAccept f.codecName) "codecs" entries :=
    required_reading hcodecs fun _ _ hw => codecs_reading hw f.codecName
  have channels : _ ↔ MayHave (OrNull (ConditionsHold (some f.channels))) "channels" entries :=
    optional_reading hchannels (fun hnone => by simp [hnone]) fun _ _ hw =>
      conditions_reading hw (some f.channels)
  have bitRate : _ ↔ MayHave (OrNull (ConditionsHold f.bitRate)) "bitrate" entries :=
    optional_reading hbitRate (fun hnone => by simp [hnone]) fun _ _ hw =>
      conditions_reading hw f.bitRate
  have languages : _ ↔ MayHave (OrNull (LanguagesName f.languageOrUnd)) "languages" entries :=
    optional_reading hlanguages (fun hnone => by simp [hnone]) fun _ _ hw =>
      nullable_reading hw fun _ hl => languages_reading hl f.languageOrUnd
  have flags : _ ↔ MayHave (OrNull (FlagsHold f.flags)) "dispositions" entries :=
    optional_reading hflags (fun hnone => by simp [hnone]) fun _ hlookup hw =>
      flags_reading (hv.of_lookup hlookup) hw f.flags
  have title : _ ↔ MayHave (OrNull (PatternFound f.title)) "title" entries :=
    optional_reading htitle (fun hnone => by simp [hnone]) fun _ hlookup hw =>
      nullable_reading hw fun _ hp => title_reading (hv.of_lookup hlookup) hp f.title
  rw [Criteria.accepts_iff]
  constructor
  · rintro ⟨hcodecs, hchannels, hbitRate, hlanguages, hflags, htitle⟩
    exact ⟨entries, rfl, codecs.1 hcodecs, channels.1 (by simpa using hchannels),
      bitRate.1 hbitRate, languages.1 hlanguages, flags.1 hflags, title.1 htitle⟩
  · rintro ⟨_, heq, hcodecs, hchannels, hbitRate, hlanguages, hflags, htitle⟩
    cases heq
    exact ⟨codecs.2 hcodecs, by simpa using channels.2 hchannels, bitRate.2 hbitRate,
      languages.2 hlanguages, flags.2 hflags, title.2 htitle⟩

section First

variable {t : Track} {f : Track.Facts} (ht : t.Shows f)

include ht

/-- Matching a track against a checked rule decides whether the rule of the document accepts it. -/
theorem rule_reading {v : Value} (hv : Decoded v) {r : Rule} (h : checkRule v = .good r) :
    Decides (t.meets r.criteria) (RuleAccepts f v) := by
  obtain ⟨_, hentries, -, -, hcriteria, -⟩ := checkRule_eq_good.1 h
  obtain ⟨entries, rfl, rfl⟩ := (fields?_eq_some_iff hv).1 hentries
  have hreading : r.criteria.Accepts f ↔ Has (CriteriaAccept f) "match" entries :=
    required_reading hcriteria fun _ hlookup hw => criteria_reading (hv.of_lookup hlookup) hw f
  refine (meets_decides ht (checkRule_normal h).criteria).congr (hreading.trans ?_)
  constructor
  · intro hhas
    exact ⟨entries, rfl, hhas⟩
  · rintro ⟨others, heq, hhas⟩
    cases heq
    exact hhas

/-- The rule that applies to a track is the one at the least position at which the document accepts
the track, and there is none where the document accepts it nowhere. -/
theorem findRule_first {d : Value} (hd : Decoded d) {rs : RuleSet} (hvalid : validate d = .ok rs) :
    ∃ items : List Value, d = .list items ∧ items.length = rs.rules.length ∧
      (∀ i : Nat, IsLeast {i : Nat | ∃ item, items[i]? = some item ∧ RuleAccepts f item} i →
        ∃ r, rs.rules[i]? = some r ∧ t.findRule rs = .ok (some r)) ∧
      ((∀ item ∈ items, ¬ RuleAccepts f item) → t.findRule rs = .ok none) := by
  obtain ⟨items, rfl, hitems⟩ := validate_eq_ok.1 hvalid
  have hdecides : List.Forall₂ (fun v r => Decides (t.meets r.criteria) (RuleAccepts f v))
      items rs.rules :=
    Checked.forall₂_imp_of_mem hitems fun item hmem _ hr =>
      rule_reading ht (hd.of_mem_list item hmem) hr
  refine ⟨items, rfl, hitems.length_eq, ?_⟩
  rcases firstMatch_cases hdecides 0 with ⟨i, r, hi, hr, hfirst⟩ | ⟨hnone, hfirst⟩
  · refine ⟨fun j hj => ?_, fun hnone => ?_⟩
    · rw [hj.unique hi]
      refine ⟨r, hr, ?_⟩
      rw [Track.findRule, hfirst]
      rfl
    · obtain ⟨⟨item, hitem, haccepts⟩, -⟩ := hi
      exact absurd haccepts (hnone item (List.mem_of_getElem? hitem))
  · refine ⟨fun j hj => ?_, fun _ => ?_⟩
    · obtain ⟨⟨item, hitem, haccepts⟩, -⟩ := hj
      exact absurd haccepts (hnone item (List.mem_of_getElem? hitem))
    · rw [Track.findRule, hfirst]
      rfl

end First

/-! ## One choice -/

/-- A rule for English in a document. -/
def englishRule : Value :=
  .map [("match", .map [("codecs", .list [.text "AC3"]), ("languages", .text "eng")]),
    ("operations", .list [])]

/-- A rule for up to six channels in a document. -/
def sixChannelsRule : Value :=
  .map [("match", .map [("codecs", .list [.text "AC3"]), ("channels", .text "<= 6")]),
    ("operations", .list [.map [("copy", .map [])]])]

/-- What the two rules are read as. -/
def languageRules : RuleSet where
  rules := [
    { criteria := { codecs := .anyOf ["ac3"], languages := some ["eng"] }, operations := [] },
    { criteria := { codecs := .anyOf ["ac3"], channels := [⟨.atMost, 6⟩] }
      operations := [.copy {}] }]

/-- The facts of a German stereo track. -/
def germanFacts : Track.Facts where
  codec := some "ac3"
  channels := 2
  bitRate := none
  language := "deu"
  title := ""
  flags := []

/-- The track with these facts. -/
def germanTrack : Track where
  codec := .known (some "ac3")
  channels := .known 2
  language := .known "deu"

theorem not_ruleAccepts_englishRule : ¬ RuleAccepts germanFacts englishRule := by
  rintro ⟨_, hrule, v, hv, hcriteria⟩
  cases hrule
  cases hv
  obtain ⟨_, heq, -, -, -, hlanguages, -, -⟩ := hcriteria
  cases heq
  rcases hlanguages _ rfl with hnull | ⟨texts, htexts, hmem⟩
  · cases hnull
  · cases htexts
    exact absurd hmem (by decide)

theorem ruleAccepts_sixChannelsRule : RuleAccepts germanFacts sixChannelsRule := by
  have hcodecs : CodecsAccept germanFacts.codecName (.list [.text "AC3"]) :=
    .inr (.inr ⟨["AC3"], rfl, "AC3", List.mem_cons_self, by decide +kernel⟩)
  have hchannels : ConditionsHold (some germanFacts.channels) (.text "<= 6") := by
    refine ⟨["<= 6"], .one _, ?_⟩
    rw [List.forall_mem_singleton]
    have hspelled : Condition.SpelledBy ⟨.atMost, 6⟩ "<= 6" :=
      Condition.ofText?_eq_some_iff.1 (by decide +kernel)
    exact ⟨_, hspelled, 2, rfl, (Condition.holds_iff _ _).1 rfl⟩
  refine ⟨_, rfl, _, rfl, _, rfl, ⟨_, rfl, hcodecs⟩, ?_, ?_, ?_, ?_, ?_⟩
  · intro v hv
    cases hv
    exact .inr hchannels
  all_goals
    intro v hv
    cases hv

theorem findRule_first_german :
    germanTrack.Shows germanFacts ∧ Decoded (.list [englishRule, sixChannelsRule]) ∧
      validate (.list [englishRule, sixChannelsRule]) = .ok languageRules ∧
      germanTrack.findRule languageRules = .ok languageRules.rules[1]? := by
  have hshows : germanTrack.Shows germanFacts := ⟨rfl, rfl, rfl, rfl, rfl, rfl⟩
  have hdecoded : Decoded (.list [englishRule, sixChannelsRule]) := by
    simp [englishRule, sixChannelsRule]
  have hvalid : validate (.list [englishRule, sixChannelsRule]) = .ok languageRules := by
    decide +kernel
  obtain ⟨items, hitems, -, hfirst, -⟩ := findRule_first hshows hdecoded hvalid
  cases hitems
  obtain ⟨r, hr, hfound⟩ :=
    hfirst 1 (isLeast_succ not_ruleAccepts_englishRule (isLeast_zero ruleAccepts_sixChannelsRule))
  rw [hr]
  exact ⟨hshows, hdecoded, hvalid, hfound⟩

end AudioPlan
