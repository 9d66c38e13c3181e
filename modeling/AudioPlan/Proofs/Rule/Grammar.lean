import AudioPlan.Proofs.Rule.Fields
import AudioPlan.Proofs.Rule.Validation

/-!
# The grammar of rule documents

What a JSON document has to look like to be a rule set, level by level, down to the single field
(`IsRuleDocument`), and that validation accepts those documents and no others
(`exists_validate_iff`).

Each object is described by its keys and by what stands under them: `IsObject` closes the set of
keys, `Has` is a field that must be there, `MayHave` one that may be left out, `OrNull` a form that
gives way to null.  `Accepts` says that a check accepts exactly the values of a form; it has one
lemma for each of these, so the check of an object is taken apart in the order of its fields.
-/

namespace AudioPlan

open Json (Decoded)

/-! ## Forms -/

section Forms

variable (form : Value → Prop)

/-- The form, or null. -/
def OrNull (v : Value) : Prop :=
  v = .null ∨ form v

/-- A list whose items have the form. -/
def IsListOf (v : Value) : Prop :=
  ∃ items, v = .list items ∧ ∀ item ∈ items, form item

/-- An object whose values have the form, under any keys. -/
def IsMapOf (v : Value) : Prop :=
  ∃ entries, v = .map entries ∧ ∀ entry ∈ entries, form entry.2

/-- A field that is there and has the form. -/
def Has (key : String) (entries : List (String × Value)) : Prop :=
  ∃ v, entries.lookup key = some v ∧ form v

/-- A field that has the form if it is there. -/
def MayHave (key : String) (entries : List (String × Value)) : Prop :=
  ∀ v, entries.lookup key = some v → form v

end Forms

/-- An object with no other keys than the known ones. -/
def IsObject (known : List String) (fields : List (String × Value) → Prop) (v : Value) : Prop :=
  ∃ entries, v = .map entries ∧ (∀ entry ∈ entries, entry.1 ∈ known) ∧ fields entries

/-! ## Fields -/

/-- A text. -/
def IsText (v : Value) : Prop :=
  ∃ s, v = .text s

/-- A text that is not empty. -/
def IsCodecName (v : Value) : Prop :=
  ∃ s, s ≠ "" ∧ v = .text s

/-- A text or a list of texts. -/
def IsTexts (v : Value) : Prop :=
  ∃ texts, TextsOf v texts

/-- A list of codecs, `*`, or `!` with a codec behind it. -/
def IsCodecs (v : Value) : Prop :=
  ∃ selector, DenotesCodecs v selector

/-- A text or a list of texts, each of which spells a condition. -/
def IsConditions (v : Value) : Prop :=
  ∃ texts, TextsOf v texts ∧ ∀ s ∈ texts, ∃ c : Condition, c.SpelledBy s

/-- A truth value, written as such. -/
def IsTruth (v : Value) : Prop :=
  ∃ b, v = .bool b

/-- A truth value in any of its spellings. -/
def IsLooseTruth (v : Value) : Prop :=
  ∃ b, DenotesTruth v b

/-- A whole number that is not negative. -/
def IsCount (v : Value) : Prop :=
  ∃ n, DenotesCount v n

/-- A text that is a regular expression once its backslashes are collapsed. -/
def IsPattern (v : Value) : Prop :=
  ∃ s, v = .text s ∧ ∃ r, Regex.compile (normalizePattern s) false = .ok r

/-! ## Objects -/

/-- A title pattern.  The key for case sensitivity has two spellings, of which one may be there. -/
def IsTitle (v : Value) : Prop :=
  ∃ caseKey ∈ ["caseSensitive", "case_sensitive"],
    IsObject ["pattern", caseKey] (fun entries =>
      Has IsPattern "pattern" entries ∧ MayHave IsTruth caseKey entries) v

/-- The criteria of a rule. -/
def IsCriteria : Value → Prop :=
  IsObject ["codecs", "channels", "bitrate", "languages", "dispositions", "title"] fun entries =>
    Has IsCodecs "codecs" entries ∧
      MayHave (OrNull IsConditions) "channels" entries ∧
      MayHave (OrNull IsConditions) "bitrate" entries ∧
      MayHave (OrNull IsTexts) "languages" entries ∧
      MayHave (OrNull (IsMapOf IsLooseTruth)) "dispositions" entries ∧
      MayHave (OrNull IsTitle) "title" entries

/-- A copy operation. -/
def IsCopy : Value → Prop :=
  IsObject ["title", "dispositions"] fun entries =>
    MayHave (OrNull IsText) "title" entries ∧
      MayHave (OrNull (IsMapOf IsTruth)) "dispositions" entries

/-- A transcode operation. -/
def IsTranscode : Value → Prop :=
  IsObject ["codec", "channels", "bitrate", "title", "dispositions", "filters"] fun entries =>
    Has IsCodecName "codec" entries ∧
      MayHave (OrNull IsCount) "channels" entries ∧
      MayHave (OrNull IsCount) "bitrate" entries ∧
      MayHave (OrNull IsText) "title" entries ∧
      MayHave (OrNull (IsMapOf IsTruth)) "dispositions" entries ∧
      MayHave (OrNull IsText) "filters" entries

/-- An object with one entry, which is a copy or a transcode operation under its name. -/
def IsOperation (v : Value) : Prop :=
  (∃ body, v = .map [("copy", body)] ∧ IsCopy body) ∨
    ∃ body, v = .map [("transcode", body)] ∧ IsTranscode body

/-- A rule. -/
def IsRule : Value → Prop :=
  IsObject ["name", "match", "operations"] fun entries =>
    MayHave (OrNull IsText) "name" entries ∧
      Has IsCriteria "match" entries ∧
      Has (IsListOf IsOperation) "operations" entries

/-- A list of rules. -/
def IsRuleDocument : Value → Prop :=
  IsListOf IsRule

/-! ## Checks that accept a form -/

/-- The check accepts exactly the values of JSON that have the form. -/
def Accepts {α : Type} (check : Value → Checked α) (form : Value → Prop) : Prop :=
  ∀ v, Decoded v → ((check v).Accepted ↔ form v)

namespace Accepts

variable {α : Type} {check : Value → Checked α} {form : Value → Prop}
  {entries : List (String × Value)} {key : String}

theorem nullable (h : Accepts check form) : Accepts (nullable check) (OrNull form) := by
  intro v hv
  rw [accepted_nullable, h v hv]
  rfl

theorem items (h : Accepts check form) {vs : List Value} (hvs : ∀ v ∈ vs, Decoded v)
    {position : Nat} :
    (Checked.items check position vs).Accepted ↔ ∀ v ∈ vs, form v := by
  rw [Checked.accepted_items]
  exact forall₂_congr fun v hv => h v (hvs v hv)

theorem required (h : Accepts check form) (hentries : Decoded (.map entries)) :
    (required key check (textKeys entries)).Accepted ↔ Has form key entries := by
  rw [accepted_required, fieldNamed_textKeys]
  exact exists_congr fun v => and_congr_right fun hv => h v (hentries.of_lookup hv)

theorem optional (h : Accepts check form) (hentries : Decoded (.map entries)) {default : α} :
    (optional key default check (textKeys entries)).Accepted ↔ MayHave form key entries := by
  rw [accepted_optional, fieldNamed_textKeys]
  exact forall₂_congr fun v hv => h v (hentries.of_lookup hv)

theorem object {part : Part} {known : List String} {check : List (Value × Value) → Checked α}
    {fields : List (String × Value) → Prop}
    (h : ∀ entries, Decoded (.map entries) →
      ((check (textKeys entries)).Accepted ↔ fields entries)) :
    Accepts (object part known check) (IsObject known fields) := by
  intro v hv
  rw [accepted_object]
  constructor
  · rintro ⟨_, hentries, hstrays, hfields⟩
    obtain ⟨entries, rfl, rfl⟩ := (fields?_eq_some_iff hv).1 hentries
    exact ⟨entries, rfl, strays_textKeys.1 hstrays, (h entries hv).1 hfields⟩
  · rintro ⟨entries, rfl, hknown, hfields⟩
    exact ⟨textKeys entries, rfl, strays_textKeys.2 hknown, (h entries hv).2 hfields⟩

end Accepts

/-! ## The checks of fields -/

theorem checkText_accepts : Accepts checkText IsText :=
  fun _ _ => exists_congr fun _ => checkText_eq_good

theorem checkTexts_accepts (field : String) : Accepts (checkTexts field) IsTexts :=
  fun _ _ => exists_congr fun _ => checkTexts_eq_good

theorem checkCodecs_accepts : Accepts checkCodecs IsCodecs :=
  fun _ _ => exists_congr fun _ => checkCodecs_eq_good

theorem checkTruth_accepts : Accepts checkTruth IsTruth :=
  fun _ _ => exists_congr fun _ => checkTruth_eq_good

theorem checkCodecName_accepts : Accepts checkCodecName IsCodecName :=
  fun _ _ => exists_congr fun _ => checkCodecName_eq_good

theorem checkConditions_accepts (field : String) :
    Accepts (checkConditions field) (OrNull IsConditions) := by
  intro v _
  simp only [Checked.Accepted, checkConditions_eq_good, OrNull, IsConditions, exists_or]
  refine or_congr (by simp) ?_
  rw [exists_comm]
  refine exists_congr fun texts => ?_
  rw [← Checked.exists_forall₂_iff, exists_and_left]

theorem exists_flagsOf_iff {denotes : Value → Bool → Prop} {v : Value} :
    (∃ flags, FlagsOf denotes v flags) ↔ IsMapOf (fun v => ∃ b, denotes v b) v := by
  simp only [FlagsOf, IsMapOf]
  rw [exists_comm]
  refine exists_congr fun entries => ?_
  rw [exists_and_left, Checked.exists_forall₂_iff]
  refine and_congr_right fun _ => forall₂_congr fun entry _ => ?_
  constructor
  · rintro ⟨flag, -, hflag⟩
    exact ⟨flag.2, hflag⟩
  · rintro ⟨b, hb⟩
    exact ⟨(entry.1, b), rfl, hb⟩

theorem checkDispositions_accepts :
    Accepts checkDispositions (OrNull (IsMapOf IsLooseTruth)) := by
  intro v hv
  simp only [Checked.Accepted, checkDispositions_eq_good hv, OrNull, exists_or]
  refine or_congr (by simp) ?_
  rw [exists_comm]
  simp only [exists_and_left, exists_eq, and_true]
  exact exists_flagsOf_iff

theorem checkOptionalFlags_accepts : Accepts checkOptionalFlags (OrNull (IsMapOf IsTruth)) := by
  intro v hv
  simp only [Checked.Accepted, checkOptionalFlags_eq_good hv, OrNull, exists_or]
  exact or_congr (by simp) exists_flagsOf_iff

theorem readCount_accepts : Accepts readCount (OrNull IsCount) := by
  intro v _
  simp only [Checked.Accepted, readCount_eq_good, OrNull, IsCount, exists_or]
  refine or_congr (by simp) ?_
  rw [exists_comm]
  exact exists_congr fun n => by simp

theorem checkPattern_accepts : Accepts checkPattern IsPattern := by
  intro v _
  simp only [Checked.Accepted, checkPattern_eq_good]
  rw [exists_comm]
  exact exists_congr fun s => by simp

/-! ## The checks of objects -/

theorem caseKey_mem (entries : List (Value × Value)) :
    caseKey entries ∈ ["caseSensitive", "case_sensitive"] := by
  unfold caseKey
  split
  · simp
  · split <;> simp

/-- If one spelling is not there, the key is the other one, or neither is there. -/
theorem caseKey_textKeys {caseKey' : String} {entries : List (String × Value)}
    (hkey : caseKey' ∈ ["caseSensitive", "case_sensitive"])
    (hknown : ∀ entry ∈ entries, entry.1 ∈ ["pattern", caseKey']) :
    caseKey (textKeys entries) = caseKey' ∨
      ((∀ entry ∈ entries, entry.1 = "pattern") ∧
        entries.lookup (caseKey (textKeys entries)) = none) := by
  have hother : ∀ key, key ∉ ["pattern", caseKey'] → entries.lookup key = none := by
    intro key hkey
    refine lookup_eq_none_iff_forall_ne.2 fun entry hentry heq => hkey ?_
    rw [← heq]
    exact hknown entry hentry
  simp only [List.mem_cons, List.not_mem_nil, or_false] at hkey hknown
  simp only [caseKey, fieldNamed_textKeys]
  rcases hkey with rfl | rfl
  · rw [hother "case_sensitive" (by decide)]
    simp
  · rw [hother "caseSensitive" (by decide)]
    cases hlookup : entries.lookup "case_sensitive" with
    | some v => simp
    | none =>
      refine .inr ⟨fun entry hentry => ?_, by simp [hother]⟩
      exact (hknown entry hentry).resolve_right
        (lookup_eq_none_iff_forall_ne.1 hlookup entry hentry)

theorem checkTitle_accepts : Accepts checkTitle IsTitle := by
  intro v hv
  constructor
  · rintro ⟨t, ht⟩
    obtain ⟨_, hentries, hstrays, hpattern, hcase⟩ := checkTitle_eq_good.1 ht
    obtain ⟨entries, rfl, rfl⟩ := (fields?_eq_some_iff hv).1 hentries
    exact ⟨_, caseKey_mem _, entries, rfl, strays_textKeys.1 hstrays,
      (checkPattern_accepts.required hv).1 ⟨_, hpattern⟩,
      (checkTruth_accepts.optional hv).1 ⟨_, hcase⟩⟩
  · rintro ⟨caseKey', hkey, entries, rfl, hknown, hpattern, hcase⟩
    have hfields : (∀ entry ∈ entries, entry.1 ∈ ["pattern", caseKey (textKeys entries)]) ∧
        MayHave IsTruth (caseKey (textKeys entries)) entries := by
      rcases caseKey_textKeys hkey hknown with heq | ⟨hpatterns, hnone⟩
      · rw [heq]
        exact ⟨hknown, hcase⟩
      · refine ⟨fun entry hentry => by simp [hpatterns entry hentry], ?_⟩
        intro v hv
        rw [hnone] at hv
        cases hv
    obtain ⟨pattern, hpattern⟩ := (checkPattern_accepts.required hv).2 hpattern
    obtain ⟨caseSensitive, hcase⟩ := (checkTruth_accepts.optional hv).2 hfields.2
    exact ⟨⟨pattern, caseSensitive⟩, checkTitle_eq_good.2
      ⟨textKeys entries, rfl, strays_textKeys.2 hfields.1, hpattern, hcase⟩⟩

theorem checkCriteria_accepts : Accepts checkCriteria IsCriteria := by
  refine .object fun entries hentries => ?_
  simp only [Checked.accepted_both, Checked.accepted_map, and_assoc]
  rw [checkCodecs_accepts.required hentries, (checkConditions_accepts _).optional hentries,
    (checkConditions_accepts _).optional hentries,
    (checkTexts_accepts _).nullable.optional hentries,
    checkDispositions_accepts.optional hentries, checkTitle_accepts.nullable.optional hentries]

theorem checkCopy_accepts : Accepts checkCopy IsCopy := by
  refine .object fun entries hentries => ?_
  rw [Checked.accepted_both, checkText_accepts.nullable.optional hentries,
    checkOptionalFlags_accepts.optional hentries]

theorem checkTranscode_accepts : Accepts checkTranscode IsTranscode := by
  refine .object fun entries hentries => ?_
  simp only [Checked.accepted_both, Checked.accepted_map, and_assoc]
  rw [checkCodecName_accepts.required hentries, readCount_accepts.optional hentries,
    readCount_accepts.optional hentries, checkText_accepts.nullable.optional hentries,
    checkOptionalFlags_accepts.optional hentries, checkText_accepts.nullable.optional hentries]

/-- An object with keys of the two kinds of operation holds exactly one operation if it has a single
entry. -/
theorem single_operation_iff {entries : List (String × Value)} {key other : String}
    (hne : other ≠ key) (hnodup : (entries.map Prod.fst).Nodup) {body : Value} :
    ((∀ entry ∈ entries, entry.1 = key ∨ entry.1 = other) ∧ entries.lookup key = some body ∧
      entries.lookup other = none) ↔ entries = [(key, body)] := by
  constructor
  · rintro ⟨hkeys, hbody, hnone⟩
    refine eq_singleton_of_lookup hnodup (fun entry hentry => ?_) hbody
    exact (hkeys entry hentry).resolve_right (lookup_eq_none_iff_forall_ne.1 hnone entry hentry)
  · rintro rfl
    simp [hne]

theorem checkOperation_accepts : Accepts checkOperation IsOperation := by
  intro v hv
  constructor
  · rintro ⟨o, ho⟩
    obtain ⟨_, hentries, hstrays, hkind⟩ := checkOperation_eq_good.1 ho
    obtain ⟨entries, rfl, rfl⟩ := (fields?_eq_some_iff hv).1 hentries
    simp only [strays_textKeys, fieldNamed_textKeys, List.mem_cons, List.not_mem_nil,
      or_false] at hstrays hkind
    rcases hkind with ⟨body, o, hbody, hnone, ho, -⟩ | ⟨body, o, hnone, hbody, ho, -⟩
    · have hsingle := (single_operation_iff (by decide) hv.nodup_keys).1 ⟨hstrays, hbody, hnone⟩
      exact .inl ⟨body, by rw [hsingle],
        (checkCopy_accepts body (hv.of_lookup hbody)).1 ⟨o, ho⟩⟩
    · have hsingle := (single_operation_iff (by decide) hv.nodup_keys).1
        ⟨fun entry hentry => (hstrays entry hentry).symm, hbody, hnone⟩
      exact .inr ⟨body, by rw [hsingle],
        (checkTranscode_accepts body (hv.of_lookup hbody)).1 ⟨o, ho⟩⟩
  · rintro (⟨body, rfl, hbody⟩ | ⟨body, rfl, hbody⟩)
    · obtain ⟨o, ho⟩ := (checkCopy_accepts body (by simpa using hv)).2 hbody
      exact ⟨.copy o, checkOperation_eq_good.2
        ⟨textKeys _, rfl, strays_textKeys.2 (by simp), .inl ⟨body, o, rfl, rfl, ho, rfl⟩⟩⟩
    · obtain ⟨o, ho⟩ := (checkTranscode_accepts body (by simpa using hv)).2 hbody
      exact ⟨.transcode o, checkOperation_eq_good.2
        ⟨textKeys _, rfl, strays_textKeys.2 (by simp), .inr ⟨body, o, rfl, rfl, ho, rfl⟩⟩⟩

theorem checkOperations_accepts : Accepts checkOperations (IsListOf IsOperation) := by
  intro v hv
  cases hv with
  | list hitems =>
    rw [checkOperations, checkOperation_accepts.items hitems]
    simp [IsListOf]
  | _ => simp [checkOperations, Checked.not_accepted_fail, IsListOf]

theorem checkRule_accepts : Accepts checkRule IsRule := by
  refine .object fun entries hentries => ?_
  simp only [Checked.accepted_both, and_assoc]
  rw [checkText_accepts.nullable.optional hentries, checkCriteria_accepts.required hentries,
    checkOperations_accepts.required hentries]

/-- Validation gives a rule set for the documents of the grammar, and for no others. -/
theorem exists_validate_iff {d : Value} (hd : Decoded d) :
    (∃ rs, validate d = .ok rs) ↔ IsRuleDocument d := by
  have hrules : ∀ items, (∃ rs : RuleSet,
      List.Forall₂ (fun v r => checkRule v = .good r) items rs.rules) ↔
        ∀ item ∈ items, (checkRule item).Accepted := by
    intro items
    simp only [Checked.Accepted, ← Checked.exists_forall₂_iff]
    constructor
    · rintro ⟨rs, hrs⟩
      exact ⟨rs.rules, hrs⟩
    · rintro ⟨rules, hrules⟩
      exact ⟨⟨rules⟩, hrules⟩
  simp only [validate_eq_ok]
  rw [exists_comm]
  refine exists_congr fun items => ?_
  rw [exists_and_left, hrules]
  refine and_congr_right ?_
  rintro rfl
  exact forall₂_congr fun item hitem => checkRule_accepts item (hd.of_mem_list item hitem)

theorem exists_validate_iff_commentary :
    Decoded commentaryDocument ∧
      ((∃ rs, validate commentaryDocument = .ok rs) ↔ IsRuleDocument commentaryDocument) ∧
      IsRuleDocument commentaryDocument := by
  have hdecoded : Decoded commentaryDocument := by simp [commentaryDocument]
  exact ⟨hdecoded, exists_validate_iff hdecoded,
    (exists_validate_iff hdecoded).1 ⟨_, validate_commentary⟩⟩

end AudioPlan
