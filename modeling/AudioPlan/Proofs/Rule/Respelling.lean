import AudioPlan.Marker
import AudioPlan.Proofs.Rule.Agreement
import AudioPlan.Proofs.Rule.Canonical
import AudioPlan.Proofs.Rule.Grammar
import AudioPlan.Proofs.Text.Case
import Mathlib.Logic.Relation

/-!
# Spellings of one rule set

The same rules can be written in many ways: an optional field may be null or left out, one text may
stand for a list of it, a number may have zeros in front, and so on.  This file lists the ways, from
the single field up to the document, and shows that they all lead to the same rule set.

* `TextsStep` … `PatternStep` change one field into another spelling of it;
* `TitleStep`, `CriteriaStep`, `CopyStep`, `TranscodeStep`, `OperationStep` and `RuleStep` change
  one object, in one place;
* `Respelled` relates documents by any sequence of such changes, in either direction;
* `validate_respelled` says that respelled documents have the same rule set and the same marker.
-/

namespace AudioPlan

/-! ## Spellings of a field -/

/-- One text may stand for the list of it. -/
inductive TextsStep : Value → Value → Prop
  | lone (s : String) : TextsStep (.text s) (.list [.text s])

/-- Texts that spell the same comparison with the same number, apart from zeros in front of it, with
at most 4300 digits. -/
def SameCondition (s t : String) : Prop :=
  ∃ (comparison : Comparison) (zeros others : Nat) (digits : List Nat),
    Spells s.toList comparison (List.replicate zeros 0 ++ digits) ∧
      Spells t.toList comparison (List.replicate others 0 ++ digits) ∧
        zeros + digits.length ≤ 4300 ∧ others + digits.length ≤ 4300

/-- Conditions may be spelled differently, and one may stand for the list of it. -/
inductive ConditionsStep : Value → Value → Prop
  | lone (s : String) : ConditionsStep (.text s) (.list [.text s])
  | text {s t : String} (hsame : SameCondition s t) : ConditionsStep (.text s) (.text t)
  | item {before after : List String} {s t : String} (hsame : SameCondition s t) :
      ConditionsStep (.list ((before ++ s :: after).map .text))
        (.list ((before ++ t :: after).map .text))

/-- Codecs may be in another letter case. -/
inductive CodecsStep : Value → Value → Prop
  | item {before after : List String} {codec other : String}
      (hsame : Text.lowerText codec = Text.lowerText other) :
      CodecsStep (.list ((before ++ codec :: after).map .text))
        (.list ((before ++ other :: after).map .text))
  | allExcept {codec other : String} (hsame : Text.lowerText codec = Text.lowerText other) :
      CodecsStep (.text ("!" ++ codec)) (.text ("!" ++ other))

/-- A flag that a track must have may be given as any spelling of its truth value. -/
inductive FlagsStep : Value → Value → Prop
  | flag {before after : List (String × Value)} {key : String} {v w : Value} {b : Bool}
      (hv : DenotesTruth v b) (hw : DenotesTruth w b) :
      FlagsStep (.map (before ++ (key, v) :: after)) (.map (before ++ (key, w) :: after))

/-- A count may be a floating-point number without a fraction. -/
inductive CountStep : Value → Value → Prop
  | whole {x : Binary64} {n : Int} (hx : x.toInt? = some n) : CountStep (.float x) (.int n)

/-- In a pattern a backslash that stands alone may be doubled. -/
inductive PatternStep : Value → Value → Prop
  | double {before after : List Char} (hbefore : before.getLast? ≠ some '\\')
      (hafter : after.head? ≠ some '\\') :
      PatternStep (.text (String.ofList (before ++ '\\' :: after)))
        (.text (String.ofList (before ++ '\\' :: '\\' :: after)))

/-! ## Spellings of objects -/

/-- The spellings of the key for case sensitivity. -/
def caseKeys : List String :=
  ["caseSensitive", "case_sensitive"]

/-- What may change under a key of a title pattern. -/
def titleChange : String → Value → Value → Prop
  | "pattern" => PatternStep
  | _ => fun _ _ => False

/-- A title pattern, whose key for case sensitivity has two spellings and may be left out when it is
false. -/
inductive TitleStep : Value → Value → Prop
  | object {v w : Value} (hstep : ObjectStep (fun _ => []) titleChange v w) : TitleStep v w
  | addCase {entries : List (String × Value)} {key : String} (hkey : key ∈ caseKeys)
      (habsent : ∀ k ∈ caseKeys, k ∉ entries.map Prod.fst) :
      TitleStep (.map entries) (.map (entries ++ [(key, .bool false)]))
  | renameCase {before after : List (String × Value)} {v : Value}
      (habsent : ∀ k ∈ caseKeys, k ∉ (before ++ after).map Prod.fst) :
      TitleStep (.map (before ++ ("caseSensitive", v) :: after))
        (.map (before ++ ("case_sensitive", v) :: after))

/-- What may stand under a key of criteria instead of leaving it out. -/
def criteriaUnset : String → List Value
  | "channels" => [.null, .list []]
  | "bitrate" => [.null, .list []]
  | "languages" => [.null]
  | "dispositions" => [.null]
  | "title" => [.null]
  | _ => []

/-- What may change under a key of criteria. -/
def criteriaChange : String → Value → Value → Prop
  | "codecs" => CodecsStep
  | "channels" => ConditionsStep
  | "bitrate" => ConditionsStep
  | "languages" => TextsStep
  | "dispositions" => FlagsStep
  | "title" => TitleStep
  | _ => fun _ _ => False

/-- The criteria of a rule. -/
def CriteriaStep : Value → Value → Prop :=
  ObjectStep criteriaUnset criteriaChange

/-- What may stand under a key of a copy operation instead of leaving it out. -/
def copyUnset : String → List Value
  | "title" => [.null]
  | "dispositions" => [.null, .map []]
  | _ => []

/-- A copy operation. -/
def CopyStep : Value → Value → Prop :=
  ObjectStep copyUnset fun _ _ _ => False

/-- What may stand under a key of a transcode operation instead of leaving it out. -/
def transcodeUnset : String → List Value
  | "channels" => [.null, .int 0]
  | "bitrate" => [.null, .int 0]
  | "title" => [.null]
  | "dispositions" => [.null, .map []]
  | "filters" => [.null]
  | _ => []

/-- What may change under a key of a transcode operation. -/
def transcodeChange : String → Value → Value → Prop
  | "channels" => CountStep
  | "bitrate" => CountStep
  | _ => fun _ _ => False

/-- A transcode operation. -/
def TranscodeStep : Value → Value → Prop :=
  ObjectStep transcodeUnset transcodeChange

/-- What may change under a key of an operation. -/
def operationChange : String → Value → Value → Prop
  | "copy" => CopyStep
  | "transcode" => TranscodeStep
  | _ => fun _ _ => False

/-- An operation. -/
def OperationStep : Value → Value → Prop :=
  ObjectStep (fun _ => []) operationChange

/-- What may stand under a key of a rule instead of leaving it out. -/
def ruleUnset : String → List Value
  | "name" => [.null]
  | _ => []

/-- What may change under a key of a rule. -/
def ruleChange : String → Value → Value → Prop
  | "match" => CriteriaStep
  | "operations" => ListStep OperationStep
  | _ => fun _ _ => False

/-- A rule. -/
def RuleStep : Value → Value → Prop :=
  ObjectStep ruleUnset ruleChange

/-- Documents that come of each other by any sequence of respellings, in either direction. -/
def Respelled : Value → Value → Prop :=
  Relation.EqvGen (ListStep RuleStep)

/-! ## What is read of a field -/

theorem textsOf_text_iff {s : String} {texts : List String} :
    TextsOf (.text s) texts ↔ texts = [s] :=
  ⟨fun h => h.unique (.one s), fun h => h ▸ .one s⟩

theorem textsOf_list_iff (items : List String) {texts : List String} :
    TextsOf (.list (items.map .text)) texts ↔ texts = items :=
  ⟨fun h => h.unique (.many items), fun h => h ▸ .many items⟩

theorem checkTexts_agree {field : String} {v w : Value} (h : TextsStep v w) :
    (checkTexts field v).Agree (checkTexts field w) := by
  cases h with
  | lone s =>
    intro texts
    rw [checkTexts_eq_good, checkTexts_eq_good, textsOf_text_iff]
    exact (textsOf_list_iff [s]).symm

theorem ofDigits_replicate_zero (zeros : Nat) (digits : List Nat) :
    Text.ofDigits (List.replicate zeros 0 ++ digits) = Text.ofDigits digits := by
  induction zeros with
  | zero => rfl
  | succ zeros ih =>
    rw [List.replicate_succ, List.cons_append]
    exact ih

/-- Two spellings of a condition stand for the same one. -/
theorem SameCondition.spelledBy_iff {s t : String} (h : SameCondition s t) (c : Condition) :
    c.SpelledBy s ↔ c.SpelledBy t := by
  obtain ⟨comparison, zeros, others, digits, hs, ht, hzeros, hothers⟩ := h
  have hfirst : Condition.SpelledBy ⟨comparison, Text.ofDigits digits⟩ s :=
    ⟨_, hs, by simpa using hzeros, (ofDigits_replicate_zero zeros digits).symm⟩
  have hsecond : Condition.SpelledBy ⟨comparison, Text.ofDigits digits⟩ t :=
    ⟨_, ht, by simpa using hothers, (ofDigits_replicate_zero others digits).symm⟩
  constructor
  · intro hc
    rw [hc.unique hfirst]
    exact hsecond
  · intro hc
    rw [hc.unique hsecond]
    exact hfirst

theorem checkConditions_agree {field : String} {v w : Value} (h : ConditionsStep v w) :
    (checkConditions field v).Agree (checkConditions field w) := by
  intro conditions
  rw [checkConditions_eq_good, checkConditions_eq_good]
  cases h with
  | lone s =>
    have hlist : ∀ texts, TextsOf (.list [.text s]) texts ↔ texts = [s] := fun _ =>
      textsOf_list_iff [s]
    simp only [reduceCtorEq, false_and, false_or, textsOf_text_iff, hlist]
  | @text s t hsame =>
    simp only [reduceCtorEq, false_and, false_or, textsOf_text_iff, exists_eq_left,
      List.forall₂_cons_left_iff, hsame.spelledBy_iff]
  | @item before after s t hsame =>
    simp only [reduceCtorEq, false_and, false_or, textsOf_list_iff, exists_eq_left]
    exact forall₂_replace hsame.spelledBy_iff before after conditions

theorem checkCodecs_agree {v w : Value} (h : CodecsStep v w) :
    (checkCodecs v).Agree (checkCodecs w) := by
  cases h with
  | @item before after codec other hsame =>
    have hread := fun codecs : List String => checkCodecs_eq_good.2 (.anyOf codecs)
    refine .of_eq ?_
    rw [hread, hread, List.map_append, List.map_append, List.map_cons, List.map_cons, hsame]
  | @allExcept codec other hsame =>
    have hempty : ∀ {a b : String}, Text.lowerText a = Text.lowerText b → a = "" → b = "" := by
      rintro a b hlower rfl
      by_contra hb
      exact Text.lowerText_ne_empty hb hlower.symm
    by_cases hcodec : codec = ""
    · rw [hcodec, hempty hsame hcodec]
      exact .of_eq rfl
    · refine .of_eq ?_
      rw [checkCodecs_eq_good.2 (.allExcept hcodec),
        checkCodecs_eq_good.2 (.allExcept (mt (hempty hsame.symm) hcodec)), hsame]

theorem checkFlagEntries_replace {check : Value → Checked Bool} {v w : Value}
    (h : check v = check w) (before after : List (String × Value)) (key : String) :
    checkFlagEntries check (textKeys (before ++ (key, v) :: after)) =
      checkFlagEntries check (textKeys (before ++ (key, w) :: after)) := by
  induction before with
  | nil =>
    simp only [textKeys, List.nil_append, List.map_cons, checkFlagEntries, h]
  | cons entry before ih =>
    simp only [textKeys, List.cons_append, List.map_cons, checkFlagEntries] at ih ⊢
    rw [ih]

theorem checkDispositions_agree {v w : Value} (h : FlagsStep v w) :
    (checkDispositions v).Agree (checkDispositions w) := by
  cases h with
  | @flag before after key v w b hv hw =>
    have hread : ∀ entries : List (String × Value), checkDispositions (.map entries) =
        (checkFlags readTruth (textKeys entries)).map some := fun _ => rfl
    refine .of_eq ?_
    rw [hread, hread, checkFlags, checkFlags,
      checkFlagEntries_replace (hv.readTruth_eq.trans hw.readTruth_eq.symm)]

theorem readCount_agree {v w : Value} (h : CountStep v w) : (readCount v).Agree (readCount w) := by
  cases h with
  | whole hx =>
    refine .of_eq ?_
    simp only [readCount, hx]

theorem checkPattern_agree {v w : Value} (h : PatternStep v w) :
    (checkPattern v).Agree (checkPattern w) := by
  cases h with
  | @double before after hbefore hafter =>
    have hnormal : normalizePattern (String.ofList (before ++ '\\' :: after)) =
        normalizePattern (String.ofList (before ++ '\\' :: '\\' :: after)) := by
      rw [normalizePattern, normalizePattern, String.toList_ofList, String.toList_ofList,
        collapseBackslashes_append hbefore, collapseBackslashes_append hbefore,
        collapseBackslashes_cons fun h => hafter h.2, collapseBackslashes]
    refine .of_eq ?_
    simp only [checkPattern, hnormal]

/-! ## What is read of an object -/

theorem forall_mem_pair {α : Type} {P : α → Prop} {a b : α} (ha : P a) (hb : P b) :
    ∀ x ∈ [a, b], P x :=
  List.forall_mem_cons.2 ⟨ha, List.forall_mem_singleton.2 hb⟩

theorem checkTitle_map_eq_good {entries : List (String × Value)} {t : TitlePattern} :
    checkTitle (.map entries) = .good t ↔
      (∀ entry ∈ entries, entry.1 ∈ ["pattern", caseKey (textKeys entries)]) ∧
        required "pattern" checkPattern (textKeys entries) = .good t.pattern ∧
        optional (caseKey (textKeys entries)) false checkTruth (textKeys entries) =
          .good t.caseSensitive := by
  rw [checkTitle_eq_good]
  simp only [fields?_map, Option.some.injEq, exists_eq_left', strays_textKeys]

/-- Without a key for case sensitivity a title pattern has nothing but its pattern. -/
theorem checkTitle_withoutCase {entries : List (String × Value)}
    (habsent : ∀ k ∈ caseKeys, k ∉ entries.map Prod.fst) {t : TitlePattern} :
    checkTitle (.map entries) = .good t ↔ (∀ entry ∈ entries, entry.1 = "pattern") ∧
      required "pattern" checkPattern (textKeys entries) = .good t.pattern ∧
        t.caseSensitive = false := by
  have hnone : ∀ k ∈ caseKeys, entries.lookup k = none := fun k hk =>
    lookup_eq_none_of_not_mem (habsent k hk)
  have hkey : caseKey (textKeys entries) = "caseSensitive" := by
    simp [caseKey, fieldNamed_textKeys, hnone "caseSensitive" (by decide),
      hnone "case_sensitive" (by decide)]
  have hknown : ∀ entry ∈ entries,
      entry.1 ∈ ["pattern", "caseSensitive"] ↔ entry.1 = "pattern" := by
    intro entry hentry
    have hne : entry.1 ≠ "caseSensitive" := by
      intro heq
      exact habsent "caseSensitive" (by decide) (heq ▸ List.mem_map_of_mem hentry)
    simp [hne]
  rw [checkTitle_map_eq_good, hkey, forall₂_congr hknown, optional_eq_good, fieldNamed_textKeys,
    hnone "caseSensitive" (by decide)]
  simp

section WithCase

variable {before after : List (String × Value)} {key : String} {v : Value}

theorem lookup_case (hkey : key ∈ caseKeys)
    (habsent : ∀ k ∈ caseKeys, k ∉ (before ++ after).map Prod.fst) :
    (before ++ (key, v) :: after).lookup key = some v := by
  refine lookup_insert_self (fun hmem => habsent key hkey ?_) v
  rw [List.map_append]
  exact List.mem_append_left _ hmem

/-- The key for case sensitivity is the one that is there. -/
theorem caseKey_insert (hkey : key ∈ caseKeys)
    (habsent : ∀ k ∈ caseKeys, k ∉ (before ++ after).map Prod.fst) :
    caseKey (textKeys (before ++ (key, v) :: after)) = key := by
  have hself := lookup_case (v := v) hkey habsent
  simp only [caseKey, fieldNamed_textKeys]
  by_cases hfirst : key = "caseSensitive"
  · rw [← hfirst, hself]
    rfl
  · have hsecond : key = "case_sensitive" := by simpa [caseKeys, hfirst] using hkey
    have hnone : (before ++ (key, v) :: after).lookup "caseSensitive" = none := by
      rw [lookup_insert_ne (Ne.symm hfirst)]
      exact lookup_eq_none_of_not_mem (habsent _ (by decide))
    rw [hnone, ← hsecond, hself]
    rfl

/-- A key for case sensitivity may have either spelling. -/
theorem checkTitle_withCase (hkey : key ∈ caseKeys)
    (habsent : ∀ k ∈ caseKeys, k ∉ (before ++ after).map Prod.fst) {t : TitlePattern} :
    checkTitle (.map (before ++ (key, v) :: after)) = .good t ↔
      (∀ entry ∈ before ++ after, entry.1 = "pattern") ∧
        required "pattern" checkPattern (textKeys (before ++ after)) = .good t.pattern ∧
        checkTruth v = .good t.caseSensitive := by
  have hself := lookup_case (v := v) hkey habsent
  have hpattern : (before ++ (key, v) :: after).lookup "pattern" =
      (before ++ after).lookup "pattern" := by
    refine lookup_insert_ne (fun heq => ?_) v
    rw [← heq] at hkey
    exact absurd hkey (by decide)
  have hknown : (∀ entry ∈ before ++ (key, v) :: after, entry.1 ∈ ["pattern", key]) ↔
      ∀ entry ∈ before ++ after, entry.1 = "pattern" := by
    have hrest : ∀ entry ∈ before ++ after, entry.1 ∈ ["pattern", key] ↔ entry.1 = "pattern" := by
      intro entry hentry
      have hne : entry.1 ≠ key := by
        rintro rfl
        exact habsent _ hkey (List.mem_map_of_mem hentry)
      simp [hne]
    rw [← forall₂_congr hrest, List.forall_mem_append, List.forall_mem_append,
      List.forall_mem_cons]
    simp
  rw [checkTitle_map_eq_good, caseKey_insert hkey habsent, hknown, required_eq_good,
    required_eq_good, optional_eq_good, fieldNamed_textKeys, fieldNamed_textKeys,
    fieldNamed_textKeys, hpattern, hself]
  simp

end WithCase

theorem TextsStep.ne_null {v w : Value} (h : TextsStep v w) : v ≠ .null ∧ w ≠ .null := by
  cases h with
  | lone s => exact ⟨nofun, nofun⟩

theorem TitleStep.ne_null {v w : Value} (h : TitleStep v w) : v ≠ .null ∧ w ≠ .null := by
  cases h with
  | object hstep => cases hstep <;> exact ⟨nofun, nofun⟩
  | addCase => exact ⟨nofun, nofun⟩
  | renameCase => exact ⟨nofun, nofun⟩

theorem checkTitle_agree {v w : Value} (h : TitleStep v w) :
    (checkTitle v).Agree (checkTitle w) := by
  intro t
  cases h with
  | object hstep =>
    obtain ⟨entries, others, rfl, rfl, halike⟩ := hstep.alike
    -- Nothing changes under either spelling of the key for case sensitivity.
    have hcase : ∀ k ∈ caseKeys, entries.lookup k = others.lookup k := by
      intro k hk
      have hk' := halike k
      simp only [caseKeys, List.mem_cons, List.not_mem_nil, or_false] at hk
      generalize entries.lookup k = o at hk'
      generalize others.lookup k = p at hk'
      cases hk' with
      | same => rfl
      | unset hunset => exact absurd hunset List.not_mem_nil
      | change hchange => rcases hk with rfl | rfl <;> exact hchange.elim
    have hkey : caseKey (textKeys entries) = caseKey (textKeys others) := by
      simp only [caseKey, fieldNamed_textKeys, hcase "caseSensitive" (by decide),
        hcase "case_sensitive" (by decide)]
    have hlookup := hcase _ (caseKey_mem (textKeys others))
    have hpattern : ReadAlike (required "pattern" checkPattern) entries others :=
      required_agree (halike "pattern") fun _ _ h => checkPattern_agree h
    have hstrays : ∀ known : List String, (∀ entry ∈ entries, entry.1 ∈ known) ↔
        ∀ entry ∈ others, entry.1 ∈ known := by
      intro known
      rw [← strays_textKeys, ← strays_textKeys]
      exact hstep.strays_iff fun _ _ h => absurd h List.not_mem_nil
    rw [checkTitle_map_eq_good, checkTitle_map_eq_good, hkey, hstrays, hpattern t.pattern,
      optional_eq_good, optional_eq_good, fieldNamed_textKeys, fieldNamed_textKeys, hlookup]
  | @addCase entries key hkey habsent =>
    have hwith : checkTitle (.map (entries ++ [(key, .bool false)])) = .good t ↔
        (∀ entry ∈ entries ++ [], entry.1 = "pattern") ∧
          required "pattern" checkPattern (textKeys (entries ++ [])) = .good t.pattern ∧
          checkTruth (.bool false) = .good t.caseSensitive :=
      checkTitle_withCase hkey (by simpa using habsent)
    rw [checkTitle_withoutCase habsent, hwith, List.append_nil, checkTruth_eq_good,
      Value.bool.injEq]
    exact and_congr_right fun _ => and_congr_right fun _ => eq_comm
  | renameCase habsent =>
    rw [checkTitle_withCase (by decide) habsent, checkTitle_withCase (by decide) habsent]

theorem checkCriteria_agree {v w : Value} (h : CriteriaStep v w) :
    (checkCriteria v).Agree (checkCriteria w) := by
  obtain ⟨entries, others, rfl, rfl, halike⟩ := ObjectStep.alike h
  have hstrays : strays criteriaFields (textKeys entries) = .good () ↔
      strays criteriaFields (textKeys others) = .good () := by
    refine ObjectStep.strays_iff h fun key v hv => ?_
    unfold criteriaUnset at hv
    split at hv <;> first | decide | exact absurd hv List.not_mem_nil
  have hcodecs : ReadAlike (required "codecs" checkCodecs) entries others :=
    required_agree (halike "codecs") fun _ _ h => checkCodecs_agree h
  have hchannels : ReadAlike (optional "channels" [] (checkConditions "channels")) entries others :=
    optional_agree (halike "channels") (forall_mem_pair rfl rfl) fun _ _ h =>
      checkConditions_agree h
  have hbitRate : ReadAlike (optional "bitrate" [] (checkConditions "bitrate")) entries others :=
    optional_agree (halike "bitrate") (forall_mem_pair rfl rfl) fun _ _ h =>
      checkConditions_agree h
  have hlanguages : ReadAlike (optional "languages" none (nullable (checkTexts "languages")))
      entries others :=
    optional_agree (halike "languages") (List.forall_mem_singleton.2 rfl) fun _ _ h =>
      nullable_agree h.ne_null.1 h.ne_null.2 (checkTexts_agree h)
  have hdispositions : ReadAlike (optional "dispositions" none checkDispositions) entries others :=
    optional_agree (halike "dispositions") (List.forall_mem_singleton.2 rfl) fun _ _ h =>
      checkDispositions_agree h
  have htitle : ReadAlike (optional "title" none (nullable checkTitle)) entries others :=
    optional_agree (halike "title") (List.forall_mem_singleton.2 rfl) fun _ _ h =>
      nullable_agree h.ne_null.1 h.ne_null.2 (checkTitle_agree h)
  intro c
  rw [checkCriteria_eq_good, checkCriteria_eq_good]
  simp only [fields?_map, Option.some.injEq, exists_eq_left', hstrays, hcodecs c.codecs,
    hchannels c.channels, hbitRate c.bitRate, hlanguages c.languages,
    hdispositions c.dispositions, htitle c.title]

theorem checkCopy_agree {v w : Value} (h : CopyStep v w) : (checkCopy v).Agree (checkCopy w) := by
  obtain ⟨entries, others, rfl, rfl, halike⟩ := ObjectStep.alike h
  have hstrays : strays ["title", "dispositions"] (textKeys entries) = .good () ↔
      strays ["title", "dispositions"] (textKeys others) = .good () := by
    refine ObjectStep.strays_iff h fun key v hv => ?_
    unfold copyUnset at hv
    split at hv <;> first | decide | exact absurd hv List.not_mem_nil
  have htitle : ReadAlike (optional "title" none (nullable checkText)) entries others :=
    optional_agree (halike "title") (List.forall_mem_singleton.2 rfl) fun _ _ h => h.elim
  have hflags : ReadAlike (optional "dispositions" [] checkOptionalFlags) entries others :=
    optional_agree (halike "dispositions") (forall_mem_pair rfl rfl) fun _ _ h => h.elim
  intro o
  rw [checkCopy_eq_good, checkCopy_eq_good]
  simp only [fields?_map, Option.some.injEq, exists_eq_left', hstrays, htitle o.title,
    hflags o.dispositions]

theorem checkTranscode_agree {v w : Value} (h : TranscodeStep v w) :
    (checkTranscode v).Agree (checkTranscode w) := by
  obtain ⟨entries, others, rfl, rfl, halike⟩ := ObjectStep.alike h
  have hstrays : strays transcodeFields (textKeys entries) = .good () ↔
      strays transcodeFields (textKeys others) = .good () := by
    refine ObjectStep.strays_iff h fun key v hv => ?_
    unfold transcodeUnset at hv
    split at hv <;> first | decide | exact absurd hv List.not_mem_nil
  have hcodec : ReadAlike (required "codec" checkCodecName) entries others :=
    required_agree (halike "codec") fun _ _ h => h.elim
  have hchannels : ReadAlike (optional "channels" none readCount) entries others :=
    optional_agree (halike "channels") (forall_mem_pair rfl rfl) fun _ _ h => readCount_agree h
  have hbitRate : ReadAlike (optional "bitrate" none readCount) entries others :=
    optional_agree (halike "bitrate") (forall_mem_pair rfl rfl) fun _ _ h => readCount_agree h
  have htitle : ReadAlike (optional "title" none (nullable checkText)) entries others :=
    optional_agree (halike "title") (List.forall_mem_singleton.2 rfl) fun _ _ h => h.elim
  have hflags : ReadAlike (optional "dispositions" [] checkOptionalFlags) entries others :=
    optional_agree (halike "dispositions") (forall_mem_pair rfl rfl) fun _ _ h => h.elim
  have hfilters : ReadAlike (optional "filters" none (nullable checkText)) entries others :=
    optional_agree (halike "filters") (List.forall_mem_singleton.2 rfl) fun _ _ h => h.elim
  intro o
  rw [checkTranscode_eq_good, checkTranscode_eq_good]
  simp only [fields?_map, Option.some.injEq, exists_eq_left', hstrays, hcodec o.codec,
    hchannels o.channels, hbitRate o.bitRate, htitle o.title, hflags o.dispositions,
    hfilters o.filters]

theorem checkOperation_map_eq_good {entries : List (String × Value)} {o : Operation} :
    checkOperation (.map entries) = .good o ↔
      strays ["copy", "transcode"] (textKeys entries) = .good () ∧
        ((entries.lookup "transcode" = none ∧ ∃ copy, (∃ body, entries.lookup "copy" = some body ∧
            checkCopy body = .good copy) ∧ .copy copy = o) ∨
          (entries.lookup "copy" = none ∧ ∃ transcode, (∃ body,
            entries.lookup "transcode" = some body ∧ checkTranscode body = .good transcode) ∧
              .transcode transcode = o)) := by
  rw [checkOperation_eq_good]
  simp only [fields?_map, Option.some.injEq, exists_eq_left', fieldNamed_textKeys]
  refine and_congr_right fun _ => or_congr ⟨?_, ?_⟩ ⟨?_, ?_⟩
  · rintro ⟨body, copy, hbody, hnone, hcopy, ho⟩
    exact ⟨hnone, copy, ⟨body, hbody, hcopy⟩, ho⟩
  · rintro ⟨hnone, copy, ⟨body, hbody, hcopy⟩, ho⟩
    exact ⟨body, copy, hbody, hnone, hcopy, ho⟩
  · rintro ⟨body, transcode, hnone, hbody, htranscode, ho⟩
    exact ⟨hnone, transcode, ⟨body, hbody, htranscode⟩, ho⟩
  · rintro ⟨hnone, transcode, ⟨body, hbody, htranscode⟩, ho⟩
    exact ⟨body, transcode, hnone, hbody, htranscode, ho⟩

theorem checkOperation_agree {v w : Value} (h : OperationStep v w) :
    (checkOperation v).Agree (checkOperation w) := by
  obtain ⟨entries, others, rfl, rfl, halike⟩ := ObjectStep.alike h
  have hstrays : strays ["copy", "transcode"] (textKeys entries) = .good () ↔
      strays ["copy", "transcode"] (textKeys others) = .good () :=
    ObjectStep.strays_iff h fun _ _ hv => absurd hv List.not_mem_nil
  have hcopy : ∀ copy, (∃ body, entries.lookup "copy" = some body ∧ checkCopy body = .good copy) ↔
      ∃ body, others.lookup "copy" = some body ∧ checkCopy body = .good copy :=
    (halike "copy").exists_iff fun _ _ h => checkCopy_agree h
  have htranscode : ∀ transcode, (∃ body, entries.lookup "transcode" = some body ∧
      checkTranscode body = .good transcode) ↔ ∃ body, others.lookup "transcode" = some body ∧
        checkTranscode body = .good transcode :=
    (halike "transcode").exists_iff fun _ _ h => checkTranscode_agree h
  intro o
  rw [checkOperation_map_eq_good, checkOperation_map_eq_good, hstrays,
    (halike "copy").eq_none_iff, (halike "transcode").eq_none_iff]
  simp only [hcopy, htranscode]

theorem checkOperations_agree {v w : Value} (h : ListStep OperationStep v w) :
    (checkOperations v).Agree (checkOperations w) := by
  obtain ⟨items, others, rfl, rfl, hitems⟩ :=
    ListStep.forall₂_iff (fun _ _ h => checkOperation_agree h) h
  intro operations
  rw [checkOperations_eq_good, checkOperations_eq_good]
  simpa using hitems operations

theorem checkRule_agree {v w : Value} (h : RuleStep v w) : (checkRule v).Agree (checkRule w) := by
  obtain ⟨entries, others, rfl, rfl, halike⟩ := ObjectStep.alike h
  have hstrays : strays ["name", "match", "operations"] (textKeys entries) = .good () ↔
      strays ["name", "match", "operations"] (textKeys others) = .good () := by
    refine ObjectStep.strays_iff h fun key v hv => ?_
    unfold ruleUnset at hv
    split at hv <;> first | decide | exact absurd hv List.not_mem_nil
  have hname : ReadAlike (optional "name" none (nullable checkText)) entries others :=
    optional_agree (halike "name") (List.forall_mem_singleton.2 rfl) fun _ _ h => h.elim
  have hcriteria : ReadAlike (required "match" checkCriteria) entries others :=
    required_agree (halike "match") fun _ _ h => checkCriteria_agree h
  have hoperations : ReadAlike (required "operations" checkOperations) entries others :=
    required_agree (halike "operations") fun _ _ h => checkOperations_agree h
  intro r
  rw [checkRule_eq_good, checkRule_eq_good]
  simp only [fields?_map, Option.some.injEq, exists_eq_left', hstrays, hname r.name,
    hcriteria r.criteria, hoperations r.operations]

/-! ## Documents -/

/-- One respelling of a rule leaves the rule set of the document as it is. -/
theorem validate_step {d e : Value} (h : ListStep RuleStep d e) (rs : RuleSet) :
    validate d = .ok rs ↔ validate e = .ok rs := by
  obtain ⟨items, others, rfl, rfl, hitems⟩ :=
    ListStep.forall₂_iff (fun _ _ h => checkRule_agree h) h
  rw [validate_eq_ok, validate_eq_ok]
  simpa using hitems rs.rules

/-- A respelled document has the same rule set, and so the same marker. -/
theorem validate_respelled {d e : Value} {rs : RuleSet} (hvalid : validate d = .ok rs)
    (hrespelled : Respelled d e) :
    validate e = .ok rs ∧
      (validate e).map RuleSet.watermark = (validate d).map RuleSet.watermark := by
  have hsame : validate d = .ok rs ↔ validate e = .ok rs := by
    clear hvalid
    induction hrespelled with
    | rel d e hstep => exact validate_step hstep rs
    | refl d => exact Iff.rfl
    | symm d e _ ih => exact ih.symm
    | trans d e f _ _ first second => exact first.trans second
  have hother := hsame.1 hvalid
  rw [hvalid, hother]
  exact ⟨rfl, rfl⟩

/-- A rule for tracks with some channels, with one transcode operation. -/
def channelsRule (channels transcode : Value) : Value :=
  .map [("match", .map [("codecs", .text "*"), ("channels", channels)]),
    ("operations", .list [.map [("transcode", transcode)]])]

/-- The condition in another spelling and in a list, a field that is null, and the keys of the rule
in another order. -/
theorem validate_respelled_channels :
    ∃ rs, validate (.list [channelsRule (.text "2") (.map [("codec", .text "ac3")])]) = .ok rs ∧
      validate (.list [.map [
        ("operations", .list [.map [("transcode",
          .map [("codec", .text "ac3"), ("bitrate", .null)])]]),
        ("match", .map [("codecs", .text "*"), ("channels", .list [.text " = 02"])])]]) =
          .ok rs := by
  have hvalid : validate (.list [channelsRule (.text "2") (.map [("codec", .text "ac3")])]) =
      .ok ⟨[{ criteria := { codecs := .all, channels := [⟨.equal, 2⟩] }
              operations := [.transcode { codec := "ac3" }] }]⟩ := by decide +kernel
  have hsame : SameCondition "2" " = 02" :=
    ⟨.equal, 0, 1, [2], Condition.partsOf?_eq_some_iff.1 (by decide +kernel),
      Condition.partsOf?_eq_some_iff.1 (by decide +kernel), by decide, by decide⟩
  -- A respelled rule is a respelled document.
  have hrule : ∀ {v w : Value}, RuleStep v w → Respelled (.list [v]) (.list [w]) := fun h =>
    .rel _ _ (@ListStep.item RuleStep [] [] _ _ h)
  have hchannels : ∀ {v w : Value} (transcode : Value), ConditionsStep v w →
      Respelled (.list [channelsRule v transcode]) (.list [channelsRule w transcode]) := by
    intro v w transcode h
    have hcriteria : CriteriaStep (.map [("codecs", .text "*"), ("channels", v)])
        (.map [("codecs", .text "*"), ("channels", w)]) :=
      @ObjectStep.change criteriaUnset criteriaChange [("codecs", .text "*")] [] "channels" v w h
    exact hrule (@ObjectStep.change ruleUnset ruleChange [] _ "match" _ _ hcriteria)
  have hbitRate : TranscodeStep (.map [("codec", .text "ac3")])
      (.map [("codec", .text "ac3"), ("bitrate", .null)]) :=
    @ObjectStep.add transcodeUnset transcodeChange [("codec", .text "ac3")] "bitrate" .null
      (by decide) List.mem_cons_self
  have hoperation : ListStep OperationStep
      (.list [.map [("transcode", .map [("codec", .text "ac3")])]])
      (.list [.map [("transcode", .map [("codec", .text "ac3"), ("bitrate", .null)])]]) :=
    @ListStep.item OperationStep [] [] _ _
      (@ObjectStep.change (fun _ => []) operationChange [] [] "transcode" _ _ hbitRate)
  have hnull : ∀ channels : Value, Respelled
      (.list [channelsRule channels (.map [("codec", .text "ac3")])])
      (.list [channelsRule channels (.map [("codec", .text "ac3"), ("bitrate", .null)])]) :=
    fun _ => hrule (@ObjectStep.change ruleUnset ruleChange [_] [] "operations" _ _ hoperation)
  have hspelled := hchannels (.map [("codec", .text "ac3")]) (.text hsame)
  have hlisted := hchannels (.map [("codec", .text "ac3")]) (.lone " = 02")
  have hordered := hrule (@ObjectStep.reorder ruleUnset ruleChange
    [("match", .map [("codecs", .text "*"), ("channels", .list [.text " = 02"])]),
      ("operations", .list [.map [("transcode",
        .map [("codec", .text "ac3"), ("bitrate", .null)])]])]
    _ (by decide) (.swap _ _ []))
  exact ⟨_, hvalid, (validate_respelled hvalid
    (.trans _ _ _ hspelled (.trans _ _ _ hlisted (.trans _ _ _ (hnull _) hordered)))).1⟩

end AudioPlan
