import AudioPlan.Proofs.Rule.Checked
import AudioPlan.Proofs.Value.Entries
import AudioPlan.Rule.Validation

/-!
# Documents that are rule sets

What it takes for a document to pass each check: one equivalence for the rules of a document, one
for a rule and its criteria, one for each kind of operation.  What has passed names every flag once
(`validate_distinctFlags`).
-/

namespace AudioPlan

/-! ## The checks, field by field -/

/-- A document is a rule set if it is a list of rules. -/
theorem validate_eq_ok {v : Value} {rs : RuleSet} :
    validate v = .ok rs ↔ ∃ items, v = .list items ∧
      List.Forall₂ (fun v r => checkRule v = .good r) items rs.rules := by
  cases v with
  | list items =>
    have hitems : validate (.list items) = .ok rs ↔
        Checked.items checkRule 0 items = .good rs.rules := by
      obtain ⟨rules⟩ := rs
      rw [validate]
      cases Checked.items checkRule 0 items with
      | good rules => simp
      | bad first rest => simp
    rw [hitems, Checked.items_eq_good]
    simp
  | _ => simp [validate]

/-- Operations stand in a list or a set. -/
theorem checkOperations_eq_good {v : Value} {operations : List Operation} :
    checkOperations v = .good operations ↔ ∃ items, (v = .list items ∨ v = .set items) ∧
      List.Forall₂ (fun v o => checkOperation v = .good o) items operations := by
  unfold checkOperations
  split
  · rw [Checked.items_eq_good]
    simp
  · rw [Checked.items_eq_good]
    simp
  · rename_i hlist hset
    constructor
    · intro h
      exact absurd h (Checked.fail_ne_good _ _)
    · rintro ⟨items, hlist' | hset', -⟩
      · exact (hlist items hlist').elim
      · exact (hset items hset').elim

theorem checkRule_eq_good {v : Value} {r : Rule} :
    checkRule v = .good r ↔ ∃ entries, v.fields? = some entries ∧
      strays ["name", "match", "operations"] entries = .good () ∧
      optional "name" none (nullable checkText) entries = .good r.name ∧
      required "match" checkCriteria entries = .good r.criteria ∧
      required "operations" checkOperations entries = .good r.operations := by
  rw [checkRule, object_eq_good]
  simp only [Checked.both_eq_good]
  constructor
  · rintro ⟨entries, hentries, ⟨_, operations, ⟨name, criteria, hname, hcriteria, rfl⟩,
      hoperations, rfl⟩, hstrays⟩
    exact ⟨entries, hentries, hstrays, hname, hcriteria, hoperations⟩
  · rintro ⟨entries, hentries, hstrays, hname, hcriteria, hoperations⟩
    exact ⟨entries, hentries, ⟨_, _, ⟨_, _, hname, hcriteria, rfl⟩, hoperations, rfl⟩, hstrays⟩

theorem checkTitle_eq_good {v : Value} {t : TitlePattern} :
    checkTitle v = .good t ↔ ∃ entries, v.fields? = some entries ∧
      strays ["pattern", caseKey entries] entries = .good () ∧
      required "pattern" checkPattern entries = .good t.pattern ∧
      optional (caseKey entries) false checkTruth entries = .good t.caseSensitive := by
  unfold checkTitle
  cases v.fields? with
  | none => simp
  | some entries =>
    simp only [Option.some.injEq, exists_eq_left', Checked.alongside_eq_good, Checked.both_eq_good]
    constructor
    · rintro ⟨⟨_, _, hpattern, hcase, rfl⟩, hstrays⟩
      exact ⟨hstrays, hpattern, hcase⟩
    · rintro ⟨hstrays, hpattern, hcase⟩
      exact ⟨⟨_, _, hpattern, hcase, rfl⟩, hstrays⟩

theorem checkCriteria_eq_good {v : Value} {c : Criteria} :
    checkCriteria v = .good c ↔ ∃ entries, v.fields? = some entries ∧
      strays criteriaFields entries = .good () ∧
      required "codecs" checkCodecs entries = .good c.codecs ∧
      optional "channels" [] (checkConditions "channels") entries = .good c.channels ∧
      optional "bitrate" [] (checkConditions "bitrate") entries = .good c.bitRate ∧
      optional "languages" none (nullable (checkTexts "languages")) entries = .good c.languages ∧
      optional "dispositions" none checkDispositions entries = .good c.dispositions ∧
      optional "title" none (nullable checkTitle) entries = .good c.title := by
  rw [checkCriteria, object_eq_good]
  simp only [Checked.both_eq_good, Checked.map_eq_good]
  constructor
  · rintro ⟨entries, hentries, ⟨_, title, ⟨_, flags, ⟨_, languages, ⟨_, bitRate, ⟨_, channels,
      ⟨codecs, hcodecs, rfl⟩, hchannels, rfl⟩, hbitRate, rfl⟩, hlanguages, rfl⟩, hflags, rfl⟩,
      htitle, rfl⟩, hstrays⟩
    exact ⟨entries, hentries, hstrays, hcodecs, hchannels, hbitRate, hlanguages, hflags, htitle⟩
  · rintro ⟨entries, hentries, hstrays, hcodecs, hchannels, hbitRate, hlanguages, hflags, htitle⟩
    exact ⟨entries, hentries, ⟨_, _, ⟨_, _, ⟨_, _, ⟨_, _, ⟨_, _, ⟨_, hcodecs, rfl⟩, hchannels, rfl⟩,
      hbitRate, rfl⟩, hlanguages, rfl⟩, hflags, rfl⟩, htitle, rfl⟩, hstrays⟩

theorem checkCopy_eq_good {v : Value} {o : CopyOperation} :
    checkCopy v = .good o ↔ ∃ entries, v.fields? = some entries ∧
      strays ["title", "dispositions"] entries = .good () ∧
      optional "title" none (nullable checkText) entries = .good o.title ∧
      optional "dispositions" [] checkOptionalFlags entries = .good o.dispositions := by
  rw [checkCopy, object_eq_good]
  simp only [Checked.both_eq_good]
  constructor
  · rintro ⟨entries, hentries, ⟨title, flags, htitle, hflags, rfl⟩, hstrays⟩
    exact ⟨entries, hentries, hstrays, htitle, hflags⟩
  · rintro ⟨entries, hentries, hstrays, htitle, hflags⟩
    exact ⟨entries, hentries, ⟨_, _, htitle, hflags, rfl⟩, hstrays⟩

theorem checkTranscode_eq_good {v : Value} {o : TranscodeOperation} :
    checkTranscode v = .good o ↔ ∃ entries, v.fields? = some entries ∧
      strays transcodeFields entries = .good () ∧
      required "codec" checkCodecName entries = .good o.codec ∧
      optional "channels" none readCount entries = .good o.channels ∧
      optional "bitrate" none readCount entries = .good o.bitRate ∧
      optional "title" none (nullable checkText) entries = .good o.title ∧
      optional "dispositions" [] checkOptionalFlags entries = .good o.dispositions ∧
      optional "filters" none (nullable checkText) entries = .good o.filters := by
  rw [checkTranscode, object_eq_good]
  simp only [Checked.both_eq_good, Checked.map_eq_good]
  constructor
  · rintro ⟨entries, hentries, ⟨_, filters, ⟨_, flags, ⟨_, title, ⟨_, bitRate, ⟨_, channels,
      ⟨codec, hcodec, rfl⟩, hchannels, rfl⟩, hbitRate, rfl⟩, htitle, rfl⟩, hflags, rfl⟩,
      hfilters, rfl⟩, hstrays⟩
    exact ⟨entries, hentries, hstrays, hcodec, hchannels, hbitRate, htitle, hflags, hfilters⟩
  · rintro ⟨entries, hentries, hstrays, hcodec, hchannels, hbitRate, htitle, hflags, hfilters⟩
    exact ⟨entries, hentries, ⟨_, _, ⟨_, _, ⟨_, _, ⟨_, _, ⟨_, _, ⟨_, hcodec, rfl⟩, hchannels, rfl⟩,
      hbitRate, rfl⟩, htitle, rfl⟩, hflags, rfl⟩, hfilters, rfl⟩, hstrays⟩

theorem checkCopy_null (copy : CopyOperation) : checkCopy .null ≠ .good copy := by
  intro h
  simp [checkCopy_eq_good, Value.fields?] at h

theorem checkTranscode_null (transcode : TranscodeOperation) :
    checkTranscode .null ≠ .good transcode := by
  intro h
  simp [checkTranscode_eq_good, Value.fields?] at h

/-- An operation is good if exactly one kind of operation is in it and that one is good. -/
theorem checkOperation_eq_good {v : Value} {o : Operation} :
    checkOperation v = .good o ↔ ∃ entries, v.fields? = some entries ∧
      strays ["copy", "transcode"] entries = .good () ∧
      ((∃ body copy, fieldNamed "copy" entries = some body ∧
          fieldNamed "transcode" entries = none ∧ checkCopy body = .good copy ∧ .copy copy = o) ∨
        (∃ body transcode, fieldNamed "copy" entries = none ∧
          fieldNamed "transcode" entries = some body ∧ checkTranscode body = .good transcode ∧
            .transcode transcode = o)) := by
  unfold checkOperation
  cases v.fields? with
  | none => simp
  | some entries =>
    simp only [Option.some.injEq, exists_eq_left']
    split
    · rename_i hcopy htranscode
      simp [hcopy, htranscode, checkCopy_null]
    · rename_i hcopy htranscode
      simp [hcopy, htranscode, checkTranscode_null]
    · rename_i body _ hcopy htranscode
      simp only [Checked.alongside_eq_good, Checked.under_eq_good, Checked.map_eq_good, hcopy,
        htranscode]
      simp [and_comm]
    · rename_i body _ hcopy htranscode
      simp only [Checked.alongside_eq_good, Checked.under_eq_good, Checked.map_eq_good, hcopy,
        htranscode]
      simp [and_comm]
    · rename_i _ _ hcopy htranscode
      constructor
      · intro h
        exact absurd h (Checked.fail_ne_good _ _)
      · rintro ⟨-, ⟨body, copy, hbody, hnone, -⟩ | ⟨body, transcode, hnone, hbody, -⟩⟩
        · exact absurd hnone (hcopy body hbody)
        · exact absurd hbody (htranscode body hnone)

/-! ## Flags -/

/-- Every flag stands once in the criteria and once in each operation of a rule. -/
structure Rule.DistinctFlags (r : Rule) : Prop where
  criteria : ∀ flags, r.criteria.dispositions = some flags → (flags.map Prod.fst).Nodup
  operations : ∀ o ∈ r.operations, (o.dispositions.map Prod.fst).Nodup

theorem checkFlags_nodup {check : Value → Checked Bool} {entries : List (Value × Value)}
    {flags : List (String × Bool)} (h : checkFlags check entries = .good flags) :
    (flags.map Prod.fst).Nodup := by
  obtain ⟨read, -, rfl⟩ := Checked.map_eq_good.1 h
  exact nodup_keys_ofEntries read

theorem checkOptionalFlags_nodup {v : Value} {flags : List (String × Bool)}
    (h : checkOptionalFlags v = .good flags) : (flags.map Prod.fst).Nodup := by
  unfold checkOptionalFlags at h
  split at h
  · cases h
    exact List.nodup_nil
  · unfold checkOperationFlags at h
    split at h
    · exact checkFlags_nodup h
    · exact absurd h (Checked.fail_ne_good _ _)

theorem checkDispositions_nodup {v : Value} {flags : List (String × Bool)}
    (h : checkDispositions v = .good (some flags)) : (flags.map Prod.fst).Nodup := by
  unfold checkDispositions at h
  split at h
  · cases h
  · split at h
    · obtain ⟨read, hread, heq⟩ := Checked.map_eq_good.1 h
      cases heq
      exact checkFlags_nodup hread
    · exact absurd h (Checked.fail_ne_good _ _)

/-- The flags of an operation are absent, or have passed their check. -/
theorem operationFlags_nodup {entries : List (Value × Value)} {flags : List (String × Bool)}
    (h : optional "dispositions" [] checkOptionalFlags entries = .good flags) :
    (flags.map Prod.fst).Nodup := by
  rcases optional_eq_good.1 h with ⟨-, rfl⟩ | ⟨v, -, hv⟩
  · exact List.nodup_nil
  · exact checkOptionalFlags_nodup hv

theorem checkOperation_nodup {v : Value} {o : Operation} (h : checkOperation v = .good o) :
    (o.dispositions.map Prod.fst).Nodup := by
  obtain ⟨_, -, -, ⟨body, copy, -, -, hcopy, rfl⟩ | ⟨body, transcode, -, -, htranscode, rfl⟩⟩ :=
    checkOperation_eq_good.1 h
  · obtain ⟨entries, -, -, -, hflags⟩ := checkCopy_eq_good.1 hcopy
    exact operationFlags_nodup hflags
  · obtain ⟨entries, -, -, -, -, -, -, hflags, -⟩ := checkTranscode_eq_good.1 htranscode
    exact operationFlags_nodup hflags

theorem checkRule_distinctFlags {v : Value} {r : Rule} (h : checkRule v = .good r) :
    r.DistinctFlags := by
  obtain ⟨entries, -, -, -, hcriteria, hoperations⟩ := checkRule_eq_good.1 h
  constructor
  · intro flags hflags
    obtain ⟨w, -, hw⟩ := required_eq_good.1 hcriteria
    obtain ⟨fields, -, -, -, -, -, -, hdispositions, -⟩ := checkCriteria_eq_good.1 hw
    rw [hflags] at hdispositions
    rcases optional_eq_good.1 hdispositions with ⟨-, hnone⟩ | ⟨x, -, hx⟩
    · cases hnone
    · exact checkDispositions_nodup hx
  · intro o ho
    obtain ⟨w, -, hw⟩ := required_eq_good.1 hoperations
    obtain ⟨items, -, hitems⟩ := checkOperations_eq_good.1 hw
    obtain ⟨x, -, hx⟩ := Checked.exists_mem_of_forall₂ hitems ho
    exact checkOperation_nodup hx

/-- Every rule of a rule set that was read from a document names its flags once. -/
theorem validate_distinctFlags {v : Value} {rs : RuleSet} (h : validate v = .ok rs) :
    ∀ r ∈ rs.rules, r.DistinctFlags := by
  intro r hr
  obtain ⟨items, -, hitems⟩ := validate_eq_ok.1 h
  obtain ⟨x, -, hx⟩ := Checked.exists_mem_of_forall₂ hitems hr
  exact checkRule_distinctFlags hx

/-! ## One document -/

/-- A document with one rule that uses most of what rules can hold. -/
def commentaryDocument : Value :=
  .list [.map [
    ("name", .text "Kommentar \"Ü\" \n 💬"),
    ("match", .map [
      ("codecs", .list [.text "AC3", .text "DTS"]),
      ("channels", .text "<= 6"),
      ("dispositions", .map [("default", .text "yes"), ("comment", .bool true)]),
      ("title", .map [("pattern", .text "commentary"), ("caseSensitive", .bool true)])]),
    ("operations", .list [
      .map [("copy", .map [("dispositions", .map [("default", .bool false)])])],
      .map [("transcode", .map [("codec", .text "aac"), ("channels", .int 2)])]])]]

/-- The rule that the document describes. -/
def commentaryRule : Rule where
  criteria := {
    codecs := .anyOf ["ac3", "dts"]
    channels := [⟨.atMost, 6⟩]
    dispositions := some [("default", true), ("comment", true)]
    title := some { pattern := "commentary", caseSensitive := true } }
  operations := [.copy { dispositions := [("default", false)] },
    .transcode { codec := "aac", channels := some 2 }]
  name := some "Kommentar \"Ü\" \n 💬"

theorem validate_commentary : validate commentaryDocument = .ok ⟨[commentaryRule]⟩ := by
  decide +kernel

end AudioPlan
