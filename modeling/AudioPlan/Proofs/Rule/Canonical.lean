import AudioPlan.Proofs.Rule.Document
import AudioPlan.Proofs.Rule.Fields
import AudioPlan.Proofs.Text.Case

/-!
# Canonical documents read a second time

What has passed the checks is in normal form (`Rule.Normal`): codecs are in lower case, bounds have
few enough digits, flags are distinct, patterns compile.  The checks take the canonical document of
such a rule back to the rule, with one exception: a pattern loses a backslash of every pair each
time it is read.

* `validate_document_eq_ok_iff` says what the canonical document of a rule set is read as;
* `RuleSet.eq_collapsed_iff` says which rule sets collapsing leaves alone: those without two
  backslashes side by side in a title pattern;
* `canonical_document_fixed_iff` puts the two together.
-/

namespace AudioPlan

open Json (Decoded Fields)

/-! ## Collapsing backslashes -/

theorem length_collapseBackslashes_le (cs : List Char) :
    (collapseBackslashes cs).length ≤ cs.length := by
  fun_induction collapseBackslashes cs with
  | case1 rest ih =>
    rw [List.length_cons, List.length_cons, List.length_cons]
    omega
  | case2 c rest _ ih =>
    rw [List.length_cons, List.length_cons]
    omega
  | case3 => exact Nat.le_refl _

/-- Collapsing keeps exactly the texts without a pair of backslashes. -/
theorem collapseBackslashes_eq_self_iff (cs : List Char) :
    collapseBackslashes cs = cs ↔ ¬ ['\\', '\\'] <:+: cs := by
  fun_induction collapseBackslashes cs with
  | case1 rest ih =>
    have hlength := length_collapseBackslashes_le rest
    refine iff_of_false ?_ (not_not.2 ⟨[], rest, rfl⟩)
    intro h
    have hsame := congrArg List.length (List.cons.inj h).2
    rw [List.length_cons] at hsame
    omega
  | case2 c rest hpair ih =>
    have hfront : ¬ ['\\', '\\'] <+: c :: rest := by
      rintro ⟨behind, hbehind⟩
      obtain ⟨rfl, hrest⟩ := List.cons.inj hbehind
      exact hpair behind rfl hrest.symm
    rw [List.cons.injEq, and_iff_right rfl, ih, List.infix_cons_iff, not_or, and_iff_right hfront]
  | case3 => simp

theorem collapseBackslashes_cons {c : Char} {cs : List Char}
    (h : ¬ (c = '\\' ∧ cs.head? = some '\\')) :
    collapseBackslashes (c :: cs) = c :: collapseBackslashes cs := by
  rw [collapseBackslashes]
  rintro rest rfl rfl
  exact h ⟨rfl, rfl⟩

/-- Collapsing starts afresh behind any character that is not a backslash. -/
theorem collapseBackslashes_append {before : List Char} (hbefore : before.getLast? ≠ some '\\')
    (cs : List Char) :
    collapseBackslashes (before ++ cs) = collapseBackslashes before ++ collapseBackslashes cs := by
  fun_induction collapseBackslashes before with
  | case1 rest ih =>
    have hrest : rest.getLast? ≠ some '\\' := by
      cases rest with
      | nil => exact absurd rfl hbefore
      | cons c rest => simpa using hbefore
    rw [List.cons_append, List.cons_append, collapseBackslashes, ih hrest, List.cons_append]
  | case2 c rest hpair ih =>
    cases rest with
    | nil =>
      have hc : c ≠ '\\' := by simpa using hbefore
      rw [List.singleton_append, collapseBackslashes_cons fun h => hc h.1]
      rfl
    | cons d rest =>
      have hfront : ¬ (c = '\\' ∧ (d :: rest ++ cs).head? = some '\\') := by
        rintro ⟨rfl, hd⟩
        exact hpair rest rfl (by simpa using hd)
      rw [List.cons_append, collapseBackslashes_cons hfront, ih (by simpa using hbefore),
        List.cons_append]
  | case3 => rfl

theorem normalizePattern_eq_self_iff (pattern : String) :
    normalizePattern pattern = pattern ↔ ¬ ['\\', '\\'] <:+: pattern.toList := by
  rw [← collapseBackslashes_eq_self_iff, normalizePattern, ← String.toList_inj,
    String.toList_ofList]

/-! ## Normal form -/

/-- Criteria as the checks leave them. -/
structure Criteria.Normal (c : Criteria) : Prop where
  codecs : DenotesCodecs c.codecs.document c.codecs
  channels : ∀ x ∈ c.channels, x.bound < 10 ^ Text.digitLimit
  bitRate : ∀ x ∈ c.bitRate, x.bound < 10 ^ Text.digitLimit
  title : ∀ t, c.title = some t → ∃ r, Regex.compile t.pattern false = .ok r

/-- A transcode operation as the checks leave it. -/
structure TranscodeOperation.Normal (o : TranscodeOperation) : Prop where
  codec : o.codec ≠ ""
  channels : ∀ n, o.channels = some n → 0 < n
  bitRate : ∀ n, o.bitRate = some n → 0 < n

/-- A rule as the checks leave it. -/
structure Rule.Normal (r : Rule) : Prop where
  flags : r.DistinctFlags
  criteria : r.criteria.Normal
  operations : ∀ o, .transcode o ∈ r.operations → o.Normal

/-! ## What is read is in normal form -/

/-- A selector that was read stands for itself in its document form. -/
theorem denotesCodecs_document {v : Value} {selector : Selector} (h : DenotesCodecs v selector) :
    DenotesCodecs selector.document selector := by
  cases h with
  | anyOf codecs =>
    have hlower : (codecs.map Text.lowerText).map Text.lowerText = codecs.map Text.lowerText := by
      rw [List.map_map]
      exact List.map_congr_left fun codec _ => Text.lowerText_lowerText codec
    have h := DenotesCodecs.anyOf (codecs.map Text.lowerText)
    rw [hlower] at h
    exact h
  | all => exact .all
  | allExcept hcodec =>
    have h := DenotesCodecs.allExcept (Text.lowerText_ne_empty hcodec)
    rw [Text.lowerText_lowerText] at h
    exact h

theorem bound_lt_of_read {field : String} {entries : List (Value × Value)}
    {conditions : List Condition}
    (h : optional field [] (checkConditions field) entries = .good conditions) :
    ∀ c ∈ conditions, c.bound < 10 ^ Text.digitLimit := by
  intro c hc
  rcases optional_eq_good.1 h with ⟨-, rfl⟩ | ⟨v, -, hv⟩
  · exact absurd hc List.not_mem_nil
  · rcases checkConditions_eq_good.1 hv with ⟨-, rfl⟩ | ⟨texts, -, hspelled⟩
    · exact absurd hc List.not_mem_nil
    · obtain ⟨s, -, hs⟩ := Checked.exists_mem_of_forall₂ hspelled hc
      exact hs.bound_lt

theorem pos_of_read {field : String} {entries : List (Value × Value)} {count : Option Int}
    (h : optional field none readCount entries = .good count) : ∀ n, count = some n → 0 < n := by
  rintro n rfl
  rcases optional_eq_good.1 h with ⟨-, hnone⟩ | ⟨v, -, hv⟩
  · cases hnone
  · rcases readCount_eq_good.1 hv with ⟨-, hnone⟩ | ⟨m, hm, hn⟩
    · cases hnone
    · have hnonneg : 0 ≤ m := by
        cases hm with
        | int hm => exact hm
        | float _ hm => exact hm
      split at hn
      · cases hn
      · cases hn
        omega

theorem checkTitle_compile {v : Value} {t : TitlePattern} (h : checkTitle v = .good t) :
    ∃ r, Regex.compile t.pattern false = .ok r := by
  obtain ⟨entries, -, -, hpattern, -⟩ := checkTitle_eq_good.1 h
  obtain ⟨w, -, hw⟩ := required_eq_good.1 hpattern
  obtain ⟨s, -, -, hr⟩ := checkPattern_eq_good.1 hw
  exact hr

theorem checkCriteria_normal {v : Value} {c : Criteria} (h : checkCriteria v = .good c) :
    c.Normal := by
  obtain ⟨entries, -, -, hcodecs, hchannels, hbitRate, -, -, htitle⟩ := checkCriteria_eq_good.1 h
  refine ⟨?_, bound_lt_of_read hchannels, bound_lt_of_read hbitRate, ?_⟩
  · obtain ⟨w, -, hw⟩ := required_eq_good.1 hcodecs
    exact denotesCodecs_document (checkCodecs_eq_good.1 hw)
  · intro t heq
    rw [heq] at htitle
    rcases optional_eq_good.1 htitle with ⟨-, hnone⟩ | ⟨w, -, hw⟩
    · cases hnone
    · rcases nullable_eq_good.1 hw with ⟨-, hnone⟩ | ⟨-, t', ht', hsome⟩
      · cases hnone
      · cases hsome
        exact checkTitle_compile ht'

theorem checkTranscode_normal {v : Value} {o : TranscodeOperation}
    (h : checkTranscode v = .good o) : o.Normal := by
  obtain ⟨entries, -, -, hcodec, hchannels, hbitRate, -⟩ := checkTranscode_eq_good.1 h
  obtain ⟨w, -, hw⟩ := required_eq_good.1 hcodec
  exact ⟨(checkCodecName_eq_good.1 hw).1, pos_of_read hchannels, pos_of_read hbitRate⟩

theorem checkRule_normal {v : Value} {r : Rule} (h : checkRule v = .good r) : r.Normal := by
  obtain ⟨entries, -, -, -, hcriteria, hoperations⟩ := checkRule_eq_good.1 h
  refine ⟨checkRule_distinctFlags h, ?_, ?_⟩
  · obtain ⟨w, -, hw⟩ := required_eq_good.1 hcriteria
    exact checkCriteria_normal hw
  · intro o ho
    obtain ⟨w, -, hw⟩ := required_eq_good.1 hoperations
    obtain ⟨items, -, hitems⟩ := checkOperations_eq_good.1 hw
    obtain ⟨x, -, hx⟩ := Checked.exists_mem_of_forall₂ hitems ho
    obtain ⟨_, -, -, ⟨_, _, -, -, -, hcopy⟩ | ⟨_, _, -, -, hread, htranscode⟩⟩ :=
      checkOperation_eq_good.1 hx
    · cases hcopy
    · cases htranscode
      exact checkTranscode_normal hread

theorem validate_normal {d : Value} {rs : RuleSet} (h : validate d = .ok rs) {r : Rule}
    (hr : r ∈ rs.rules) : r.Normal := by
  obtain ⟨items, -, hitems⟩ := validate_eq_ok.1 h
  obtain ⟨x, -, hx⟩ := Checked.exists_mem_of_forall₂ hitems hr
  exact checkRule_normal hx

/-! ## The second reading -/

section Reading

variable {α β : Type} {entries : List (String × Value)} {key : String} {check : Value → Checked α}

theorem required_of_lookup {v : Value} {a : α} (hlookup : entries.lookup key = some v) :
    required key check (textKeys entries) = .good a ↔ check v = .good a := by
  rw [required_eq_good, fieldNamed_textKeys, hlookup]
  simp

/-- A field of a document is read back where the check takes the form of its value back. -/
theorem optional_of_lookup {form : β → Value} {o : Option β} {default a : α}
    (hlookup : entries.lookup key = o.map form) :
    optional key default check (textKeys entries) = .good a ↔
      (o = none ∧ a = default) ∨ ∃ b, o = some b ∧ check (form b) = .good a := by
  rw [optional_eq_good, fieldNamed_textKeys, hlookup]
  cases o with
  | none => simp
  | some b => simp

theorem nullable_of_lookup {form : α → Value} {o : Option α}
    (hlookup : entries.lookup key = o.map form) (hnull : ∀ a, form a ≠ .null) :
    optional key none (nullable check) (textKeys entries) = .good o ↔
      ∀ a, o = some a → check (form a) = .good a := by
  rw [optional_of_lookup hlookup]
  cases o with
  | none => simp
  | some a => simp [nullable_eq_good, hnull]

theorem strays_of_fields {keys known : List String} (hfields : Fields keys entries)
    (hknown : keys ⊆ known) : strays known (textKeys entries) = .good () :=
  strays_textKeys.2 fun _ hentry =>
    hknown (hfields.keys_sublist.subset (List.mem_map_of_mem hentry))

end Reading

theorem decoded_flagsDocument {flags : List (String × Bool)} (hflags : (flags.map Prod.fst).Nodup) :
    Decoded (flagsDocument flags) := by
  refine .map ?_ ?_
  · rw [List.map_map]
    exact hflags
  · intro entry hentry
    obtain ⟨flag, -, rfl⟩ := List.mem_map.1 hentry
    exact .bool flag.2

theorem flagsOf_flagsDocument {denotes : Value → Bool → Prop} (hbool : ∀ b, denotes (.bool b) b)
    (flags : List (String × Bool)) : FlagsOf denotes (flagsDocument flags) flags := by
  refine ⟨_, rfl, List.forall₂_map_left_iff.2 (List.forall₂_same.2 ?_)⟩
  intro flag _
  exact ⟨rfl, hbool flag.2⟩

theorem textsOf_conditionsDocument (conditions : List Condition) :
    TextsOf (conditionsDocument conditions) (conditions.map Condition.text) := by
  have h := TextsOf.many (conditions.map Condition.text)
  rw [List.map_map] at h
  exact h

theorem conditions_read_back {entries : List (String × Value)} {field : String}
    {conditions : List Condition}
    (hlookup : entries.lookup field = (given? conditions).map conditionsDocument)
    (hbounds : ∀ c ∈ conditions, c.bound < 10 ^ Text.digitLimit) :
    optional field [] (checkConditions field) (textKeys entries) = .good conditions := by
  rw [optional_of_lookup hlookup]
  cases conditions with
  | nil => exact .inl ⟨rfl, rfl⟩
  | cons c rest =>
    have hspelled : List.Forall₂ (fun s (x : Condition) => x.SpelledBy s)
        ((c :: rest).map Condition.text) (c :: rest) := by
      refine List.forall₂_map_left_iff.2 (List.forall₂_same.2 ?_)
      intro x hx
      exact Condition.ofText?_eq_some_iff.1 (Condition.ofText?_text (hbounds x hx))
    exact .inr ⟨c :: rest, rfl, checkConditions_eq_good.2
      (.inr ⟨_, textsOf_conditionsDocument (c :: rest), hspelled⟩)⟩

theorem operationFlags_read_back {entries : List (String × Value)} {flags : List (String × Bool)}
    (hlookup : entries.lookup "dispositions" = (given? flags).map flagsDocument)
    (hflags : (flags.map Prod.fst).Nodup) :
    optional "dispositions" [] checkOptionalFlags (textKeys entries) = .good flags := by
  rw [optional_of_lookup hlookup]
  cases flags with
  | nil => exact .inl ⟨rfl, rfl⟩
  | cons flag rest =>
    exact .inr ⟨flag :: rest, rfl, (checkOptionalFlags_eq_good (decoded_flagsDocument hflags)).2
      (.inr (flagsOf_flagsDocument (fun _ => rfl) _))⟩

theorem count_read_back {entries : List (String × Value)} {field : String} {count : Option Int}
    (hlookup : entries.lookup field = count.map .int) (hpos : ∀ n, count = some n → 0 < n) :
    optional field none readCount (textKeys entries) = .good count := by
  rw [optional_of_lookup hlookup]
  cases count with
  | none => exact .inl ⟨rfl, rfl⟩
  | some n =>
    have hn := hpos n rfl
    refine .inr ⟨n, rfl, readCount_eq_good.2 (.inr ⟨n, .int (by omega), ?_⟩)⟩
    rw [if_neg (by omega)]

theorem text_read_back {entries : List (String × Value)} {field : String} {text : Option String}
    (hlookup : entries.lookup field = text.map .text) :
    optional field none (nullable checkText) (textKeys entries) = .good text :=
  (nullable_of_lookup hlookup (by simp)).2 fun _ _ => checkText_eq_good.2 rfl

theorem dispositions_read_back {entries : List (String × Value)}
    {o : Option (List (String × Bool))}
    (hlookup : entries.lookup "dispositions" = o.map flagsDocument)
    (hflags : ∀ flags, o = some flags → (flags.map Prod.fst).Nodup) :
    optional "dispositions" none checkDispositions (textKeys entries) = .good o := by
  rw [optional_of_lookup hlookup]
  cases o with
  | none => exact .inl ⟨rfl, rfl⟩
  | some flags =>
    exact .inr ⟨flags, rfl, (checkDispositions_eq_good (decoded_flagsDocument (hflags flags rfl))).2
      (.inr ⟨flags, flagsOf_flagsDocument .value flags, rfl⟩)⟩

/-! ## Patterns collapsed a second time -/

/-- A title pattern whose backslashes are collapsed once more. -/
def TitlePattern.collapsed (t : TitlePattern) : TitlePattern :=
  { t with pattern := normalizePattern t.pattern }

/-- Criteria whose pattern is collapsed once more. -/
def Criteria.collapsed (c : Criteria) : Criteria :=
  { c with title := c.title.map TitlePattern.collapsed }

/-- A rule whose pattern is collapsed once more. -/
def Rule.collapsed (r : Rule) : Rule :=
  { r with criteria := r.criteria.collapsed }

/-- A rule set whose patterns are collapsed once more. -/
def RuleSet.collapsed (rs : RuleSet) : RuleSet :=
  ⟨rs.rules.map Rule.collapsed⟩

/-- The pattern of the criteria, if there is one, is a regular expression. -/
def Criteria.Compiles (c : Criteria) : Prop :=
  ∀ t, c.title = some t → ∃ r, Regex.compile t.pattern false = .ok r

/-- All patterns of a rule set are regular expressions. -/
def RuleSet.Compiles (rs : RuleSet) : Prop :=
  ∀ r ∈ rs.rules, r.criteria.Compiles

/-! ## Parts of a rule -/

theorem checkTitle_document_eq_good {t t' : TitlePattern} :
    checkTitle t.document = .good t' ↔
      t' = t.collapsed ∧ ∃ r, Regex.compile t'.pattern false = .ok r := by
  have hcase : optional "caseSensitive" false checkTruth
      (textKeys [("pattern", .text t.pattern), ("caseSensitive", .bool t.caseSensitive)]) =
        .good t'.caseSensitive ↔ t'.caseSensitive = t.caseSensitive := by
    have hlookup : [("pattern", .text t.pattern), ("caseSensitive", .bool t.caseSensitive)].lookup
        "caseSensitive" = (some t.caseSensitive).map Value.bool := rfl
    rw [optional_of_lookup hlookup]
    simp [checkTruth_eq_good, @eq_comm Bool t.caseSensitive]
  have hpattern : required "pattern" checkPattern
      (textKeys [("pattern", .text t.pattern), ("caseSensitive", .bool t.caseSensitive)]) =
        .good t'.pattern ↔ t'.pattern = normalizePattern t.pattern ∧
          ∃ r, Regex.compile t'.pattern false = .ok r := by
    rw [required_of_lookup (v := .text t.pattern) rfl, checkPattern_eq_good]
    simp
  have hcollapsed : t' = t.collapsed ↔
      t'.pattern = normalizePattern t.pattern ∧ t'.caseSensitive = t.caseSensitive := by
    obtain ⟨pattern, caseSensitive⟩ := t'
    exact TitlePattern.mk.injEq _ _ _ _ ▸ Iff.rfl
  rw [checkTitle_eq_good, hcollapsed]
  constructor
  · rintro ⟨_, hentries, -, hread, hread'⟩
    cases hentries
    obtain ⟨hp, hr⟩ := hpattern.1 hread
    exact ⟨⟨hp, hcase.1 hread'⟩, hr⟩
  · rintro ⟨⟨hp, hc⟩, hr⟩
    exact ⟨_, rfl, strays_textKeys.2 (by simp [caseKey, fieldNamed]), hpattern.2 ⟨hp, hr⟩,
      hcase.2 hc⟩

/-- The pattern of criteria is collapsed when it is read back. -/
theorem criteriaTitle_read_back {entries : List (String × Value)}
    {title title' : Option TitlePattern}
    (hlookup : entries.lookup "title" = title.map TitlePattern.document) :
    optional "title" none (nullable checkTitle) (textKeys entries) = .good title' ↔
      title' = title.map TitlePattern.collapsed ∧
        ∀ t, title' = some t → ∃ r, Regex.compile t.pattern false = .ok r := by
  rw [optional_of_lookup hlookup]
  cases title with
  | none =>
    constructor
    · rintro (⟨-, rfl⟩ | ⟨_, ⟨⟩, _⟩)
      exact ⟨rfl, by simp⟩
    · rintro ⟨rfl, -⟩
      exact .inl ⟨rfl, rfl⟩
  | some t =>
    have hnull : t.document ≠ .null := Value.noConfusion
    constructor
    · rintro (⟨⟨⟩, -⟩ | ⟨_, ⟨rfl⟩, hread⟩)
      rcases nullable_eq_good.1 hread with ⟨h, -⟩ | ⟨-, t', ht', rfl⟩
      · exact absurd h hnull
      · obtain ⟨rfl, hcompile⟩ := checkTitle_document_eq_good.1 ht'
        refine ⟨rfl, ?_⟩
        rintro _ ⟨rfl⟩
        exact hcompile
    · rintro ⟨rfl, hcompile⟩
      exact .inr ⟨t, rfl, nullable_eq_good.2 (.inr ⟨hnull, _,
        checkTitle_document_eq_good.2 ⟨rfl, hcompile _ rfl⟩, rfl⟩)⟩

/-- Criteria in normal form are read back as they are, but for their pattern. -/
theorem checkCriteria_document_eq_good {c c' : Criteria} (hc : c.Normal)
    (hflags : ∀ flags, c.dispositions = some flags → (flags.map Prod.fst).Nodup) :
    checkCriteria c.document = .good c' ↔ c' = c.collapsed ∧ c'.Compiles := by
  obtain ⟨hcodecs, hchannels, hbitRate, hlanguages, hdispositions, htitle⟩ := c.lookup_entries
  have hcodecs' := (required_of_lookup hcodecs).2 (checkCodecs_eq_good.2 hc.codecs)
  have hchannels' := conditions_read_back hchannels hc.channels
  have hbitRate' := conditions_read_back hbitRate hc.bitRate
  have hlanguages' : optional "languages" none (nullable (checkTexts "languages"))
      (textKeys c.entries) = .good c.languages :=
    (nullable_of_lookup hlanguages (by simp [textsDocument])).2 fun texts _ =>
      checkTexts_eq_good.2 (.many texts)
  have hdispositions' := dispositions_read_back hdispositions hflags
  have htitle' : optional "title" none (nullable checkTitle) (textKeys c.entries) =
      .good c'.title ↔ c'.title = c.title.map TitlePattern.collapsed ∧ c'.Compiles :=
    criteriaTitle_read_back htitle
  rw [checkCriteria_eq_good]
  constructor
  · rintro ⟨_, hentries, -, h₁, h₂, h₃, h₄, h₅, h₆⟩
    cases hentries
    obtain ⟨hcollapsed, hcompiles⟩ := htitle'.1 h₆
    refine ⟨?_, hcompiles⟩
    obtain ⟨codecs, channels, bitRate, languages, dispositions, title⟩ := c'
    cases hcodecs'.symm.trans h₁
    cases hchannels'.symm.trans h₂
    cases hbitRate'.symm.trans h₃
    cases hlanguages'.symm.trans h₄
    cases hdispositions'.symm.trans h₅
    cases hcollapsed
    rfl
  · rintro ⟨rfl, hcompiles⟩
    exact ⟨textKeys c.entries, rfl,
      strays_of_fields (Criteria.fields_entries hflags) (List.Subset.refl _), hcodecs', hchannels',
      hbitRate', hlanguages', hdispositions', htitle'.2 ⟨rfl, hcompiles⟩⟩

theorem checkCopy_entries {o : CopyOperation} (hflags : (o.dispositions.map Prod.fst).Nodup) :
    checkCopy (.map o.entries) = .good o := by
  obtain ⟨htitle, hdispositions⟩ := o.lookup_entries
  exact checkCopy_eq_good.2 ⟨textKeys o.entries, rfl,
    strays_of_fields (CopyOperation.fields_entries hflags) (List.Subset.refl _),
    text_read_back htitle, operationFlags_read_back hdispositions hflags⟩

theorem checkTranscode_entries {o : TranscodeOperation} (ho : o.Normal)
    (hflags : (o.dispositions.map Prod.fst).Nodup) : checkTranscode (.map o.entries) = .good o := by
  obtain ⟨hcodec, hchannels, hbitRate, htitle, hdispositions, hfilters⟩ := o.lookup_entries
  exact checkTranscode_eq_good.2 ⟨textKeys o.entries, rfl,
    strays_of_fields (TranscodeOperation.fields_entries hflags) (by simp [transcodeFields]),
    (required_of_lookup hcodec).2 (checkCodecName_eq_good.2 ⟨ho.codec, rfl⟩),
    count_read_back hchannels ho.channels, count_read_back hbitRate ho.bitRate,
    text_read_back htitle, operationFlags_read_back hdispositions hflags, text_read_back hfilters⟩

theorem checkOperation_document {o : Operation} (hflags : (o.dispositions.map Prod.fst).Nodup)
    (ho : ∀ transcode, o = .transcode transcode → transcode.Normal) :
    checkOperation o.document = .good o := by
  cases o with
  | copy o =>
    exact checkOperation_eq_good.2 ⟨textKeys [("copy", .map o.entries)], rfl,
      strays_textKeys.2 (by simp), .inl ⟨_, o, rfl, rfl, checkCopy_entries hflags, rfl⟩⟩
  | transcode o =>
    exact checkOperation_eq_good.2 ⟨textKeys [("transcode", .map o.entries)], rfl,
      strays_textKeys.2 (by simp),
      .inr ⟨_, o, rfl, rfl, checkTranscode_entries (ho o rfl) hflags, rfl⟩⟩

/-! ## Rules -/

/-- A rule in normal form is read back as it is, but for its pattern. -/
theorem checkRule_document_eq_good {r r' : Rule} (hr : r.Normal) :
    checkRule r.document = .good r' ↔ r' = r.collapsed ∧ r'.criteria.Compiles := by
  obtain ⟨hname, hcriteria, hoperations⟩ := r.lookup_entries
  have hname' : optional "name" none (nullable checkText) (textKeys r.entries) = .good r.name :=
    text_read_back hname
  have hcriteria' : required "match" checkCriteria (textKeys r.entries) = .good r'.criteria ↔
      r'.criteria = r.criteria.collapsed ∧ r'.criteria.Compiles := by
    rw [required_of_lookup hcriteria]
    exact checkCriteria_document_eq_good hr.criteria hr.flags.criteria
  have hoperations' : required "operations" checkOperations (textKeys r.entries) =
      .good r.operations := by
    refine (required_of_lookup hoperations).2 (checkOperations_eq_good.2 ⟨_, .inl rfl, ?_⟩)
    refine List.forall₂_map_left_iff.2 (List.forall₂_same.2 fun o ho => ?_)
    refine checkOperation_document (hr.flags.operations o ho) ?_
    rintro transcode rfl
    exact hr.operations transcode ho
  rw [checkRule_eq_good]
  constructor
  · rintro ⟨_, hentries, -, h₁, h₂, h₃⟩
    cases hentries
    obtain ⟨hcollapsed, hcompiles⟩ := hcriteria'.1 h₂
    refine ⟨?_, hcompiles⟩
    obtain ⟨criteria, operations, name⟩ := r'
    cases hname'.symm.trans h₁
    cases hoperations'.symm.trans h₃
    cases hcollapsed
    rfl
  · rintro ⟨rfl, hcompiles⟩
    exact ⟨textKeys r.entries, rfl,
      strays_of_fields (Rule.fields_entries hr.flags) (List.Subset.refl _), hname',
      hcriteria'.2 ⟨rfl, hcompiles⟩, hoperations'⟩

/-! ## Rule sets -/

/-- No title pattern has two backslashes side by side. -/
def RuleSet.NoDoubledBackslash (rs : RuleSet) : Prop :=
  ∀ r ∈ rs.rules, ∀ t, r.criteria.title = some t → ¬ ['\\', '\\'] <:+: t.pattern.toList

theorem Rule.eq_collapsed_iff (r : Rule) : r = r.collapsed ↔
    ∀ t, r.criteria.title = some t → ¬ ['\\', '\\'] <:+: t.pattern.toList := by
  obtain ⟨⟨codecs, channels, bitRate, languages, dispositions, title⟩, operations, name⟩ := r
  cases title with
  | none => simp [Rule.collapsed, Criteria.collapsed]
  | some t =>
    obtain ⟨pattern, caseSensitive⟩ := t
    simp [Rule.collapsed, Criteria.collapsed, TitlePattern.collapsed,
      ← normalizePattern_eq_self_iff, eq_comm]

/-- Collapsing keeps exactly the rule sets without a pair of backslashes. -/
theorem RuleSet.eq_collapsed_iff (rs : RuleSet) : rs = rs.collapsed ↔ rs.NoDoubledBackslash := by
  obtain ⟨rules⟩ := rs
  have hmap : rules = rules.map Rule.collapsed ↔ ∀ r ∈ rules, r = r.collapsed := by
    rw [← List.map_inj_left, List.map_id']
  rw [RuleSet.collapsed, RuleSet.mk.injEq, hmap]
  exact forall₂_congr fun r _ => r.eq_collapsed_iff

section RuleSets

variable {d : Value} {rs : RuleSet} (hvalid : validate d = .ok rs)

include hvalid

/-- The canonical document of a rule set is read as the rule set whose patterns are collapsed once
more; it is refused only if one of those is no regular expression. -/
theorem validate_document_eq_ok_iff {rs' : RuleSet} :
    validate rs.document = .ok rs' ↔ rs' = rs.collapsed ∧ rs'.Compiles := by
  obtain ⟨rules⟩ := rs'
  rw [validate_eq_ok, RuleSet.collapsed, RuleSet.mk.injEq]
  simp only [RuleSet.document, Value.list.injEq, exists_eq_left', List.forall₂_map_left_iff]
  exact Checked.forall₂_iff_eq_map fun r hr _ =>
    checkRule_document_eq_good (validate_normal hvalid hr)

/-- A rule set that was read from a document comes back from its canonical document exactly when no
title pattern of it has two backslashes side by side. -/
theorem validate_document_iff : validate rs.document = .ok rs ↔ rs.NoDoubledBackslash := by
  have hcompiles : rs.Compiles := fun r hr => (validate_normal hvalid hr).criteria.title
  rw [validate_document_eq_ok_iff hvalid, and_iff_left hcompiles, RuleSet.eq_collapsed_iff]

end RuleSets

/-- The canonical document of a rule set that was read describes the same rules but for their title
patterns, whose pairs of backslashes are collapsed once more.  So the rule set comes back exactly
when there is no such pair. -/
theorem canonical_document_fixed_iff {d : Value} {rs : RuleSet} (hvalid : validate d = .ok rs) :
    (validate rs.document = .ok rs ↔ rs.NoDoubledBackslash) ∧
      ∀ rs', validate rs.document = .ok rs' ↔ rs' = rs.collapsed ∧ rs'.Compiles :=
  ⟨validate_document_iff hvalid, fun _ => validate_document_eq_ok_iff hvalid⟩

/-- A document with one rule, which drops the tracks whose title has a pattern in it. -/
def titleRuleDocument (pattern : String) : Value :=
  .list [.map [
    ("match", .map [("codecs", .text "*"), ("title", .map [("pattern", .text pattern)])]),
    ("operations", .list [])]]

/-- The rule that drops the tracks whose title has a pattern in normal form in it. -/
def titleRule (pattern : String) : Rule where
  criteria := { codecs := .all, title := some { pattern } }

/-- A pattern without backslashes comes back.  One for a backslash before a letter comes back as one
for a digit. -/
theorem canonical_document_fixed_iff_digit :
    let plain : RuleSet := ⟨[commentaryRule]⟩
    let doubled : RuleSet := ⟨[titleRule "\\\\d"]⟩
    validate commentaryDocument = .ok plain ∧ validate plain.document = .ok plain ∧
      validate (titleRuleDocument "\\\\\\\\d") = .ok doubled ∧
      ¬ doubled.NoDoubledBackslash ∧ validate doubled.document = .ok ⟨[titleRule "\\d"]⟩ := by
  intro plain doubled
  have hplain : plain.NoDoubledBackslash := by
    rw [← RuleSet.eq_collapsed_iff]
    decide +kernel
  have hdoubled : validate (titleRuleDocument "\\\\\\\\d") = .ok doubled := by decide +kernel
  obtain ⟨hsame, hread⟩ := canonical_document_fixed_iff hdoubled
  have hdigit : validate doubled.document = .ok ⟨[titleRule "\\d"]⟩ := by
    refine (hread _).2 ⟨by decide +kernel, ?_⟩
    rintro r hr t ht
    obtain rfl := List.mem_singleton.1 hr
    obtain rfl := Option.some.inj ht
    exact ⟨_, rfl⟩
  refine ⟨validate_commentary, (canonical_document_fixed_iff validate_commentary).1.2 hplain,
    hdoubled, ?_, hdigit⟩
  rw [← hsame, hdigit]
  decide

end AudioPlan
