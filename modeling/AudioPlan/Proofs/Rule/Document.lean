import AudioPlan.Proofs.Json.RoundTrip
import AudioPlan.Proofs.Rule.Validation
import AudioPlan.Rule.Document

/-!
# What a canonical document is made of

JSON holds the canonical document of a rule set exactly (`RuleSet.exact_document`).  Its values are
texts, truth values and integers, and no key stands twice in a mapping: the keys of an object are
some of a fixed list, in the order of that list (`Fields`), and the flags of a rule that has passed
its checks are distinct.  What stands under a key is the form of that part of the rule, and nothing
where the part is not set (`Criteria.lookup_entries` and its like).
-/

namespace AudioPlan

open Json (Exact Fields)

/-! ## Entries -/

theorem optionalEntry_fields {α : Type} {key : String} {form : α → Value} {o : Option α}
    (hform : ∀ a, o = some a → Exact (form a)) : Fields [key] (optionalEntry key form o) := by
  cases o with
  | none => exact .none
  | some a => exact .one (hform a rfl)

/-- The document form of texts. -/
def textsDocument (texts : List String) : Value :=
  .list (texts.map .text)

theorem exact_texts (texts : List String) : Exact (textsDocument texts) := by
  refine .list ?_
  intro v hv
  obtain ⟨s, -, rfl⟩ := List.mem_map.1 hv
  exact .text s

theorem exact_flagsDocument {flags : List (String × Bool)} (hflags : (flags.map Prod.fst).Nodup) :
    Exact (flagsDocument flags) := by
  refine .map ?_ ?_
  · rw [List.map_map]
    exact hflags
  · intro entry hentry
    obtain ⟨flag, -, rfl⟩ := List.mem_map.1 hentry
    exact .bool flag.2

theorem flagsEntry_fields {flags : List (String × Bool)} (hflags : (flags.map Prod.fst).Nodup) :
    Fields ["dispositions"] (flagsEntry flags) := by
  unfold flagsEntry
  split
  · exact .none
  · exact .one (exact_flagsDocument hflags)

theorem conditionsEntry_fields (key : String) (conditions : List Condition) :
    Fields [key] (conditionsEntry key conditions) := by
  unfold conditionsEntry
  split
  · exact .none
  · have htexts := exact_texts (conditions.map Condition.text)
    rw [textsDocument, List.map_map] at htexts
    exact .one htexts

/-! ## Parts of a rule -/

theorem Selector.exact_document (selector : Selector) : Exact selector.document := by
  cases selector with
  | all => exact .text _
  | anyOf codecs => exact exact_texts codecs
  | allExcept codec => exact .text _

theorem TitlePattern.exact_document (t : TitlePattern) : Exact t.document :=
  ((Fields.one (.text t.pattern)).append (.one (.bool t.caseSensitive))).exact_map (by decide)

/-- The entries of the document of criteria. -/
def Criteria.entries (c : Criteria) : List (String × Value) :=
  [("codecs", c.codecs.document)] ++ conditionsEntry "channels" c.channels ++
    conditionsEntry "bitrate" c.bitRate ++
    optionalEntry "languages" textsDocument c.languages ++
    optionalEntry "dispositions" flagsDocument c.dispositions ++
    optionalEntry "title" TitlePattern.document c.title

theorem Criteria.document_eq (c : Criteria) : c.document = .map c.entries :=
  rfl

theorem Criteria.fields_entries {c : Criteria}
    (hflags : ∀ flags, c.dispositions = some flags → (flags.map Prod.fst).Nodup) :
    Fields ["codecs", "channels", "bitrate", "languages", "dispositions", "title"] c.entries := by
  have hcodecs : Fields ["codecs"] [("codecs", c.codecs.document)] := .one c.codecs.exact_document
  have hlanguages : Fields ["languages"]
      (optionalEntry "languages" textsDocument c.languages) :=
    optionalEntry_fields fun languages _ => exact_texts languages
  have hdispositions : Fields ["dispositions"]
      (optionalEntry "dispositions" flagsDocument c.dispositions) :=
    optionalEntry_fields fun flags h => exact_flagsDocument (hflags flags h)
  have htitle : Fields ["title"] (optionalEntry "title" TitlePattern.document c.title) :=
    optionalEntry_fields fun t _ => t.exact_document
  exact ((((hcodecs.append (conditionsEntry_fields "channels" c.channels)).append
    (conditionsEntry_fields "bitrate" c.bitRate)).append hlanguages).append hdispositions).append
      htitle

theorem Criteria.exact_document {c : Criteria}
    (hflags : ∀ flags, c.dispositions = some flags → (flags.map Prod.fst).Nodup) :
    Exact c.document :=
  (fields_entries hflags).exact_map (by decide)

/-- The entries of the document of a copy operation. -/
def CopyOperation.entries (o : CopyOperation) : List (String × Value) :=
  optionalEntry "title" .text o.title ++ flagsEntry o.dispositions

/-- The entries of the document of a transcode operation. -/
def TranscodeOperation.entries (o : TranscodeOperation) : List (String × Value) :=
  [("codec", .text o.codec)] ++ optionalEntry "channels" .int o.channels ++
    optionalEntry "bitrate" .int o.bitRate ++ optionalEntry "title" .text o.title ++
    optionalEntry "filters" .text o.filters ++ flagsEntry o.dispositions

theorem Operation.document_copy (o : CopyOperation) :
    (Operation.copy o).document = .map [("copy", .map o.entries)] :=
  rfl

theorem Operation.document_transcode (o : TranscodeOperation) :
    (Operation.transcode o).document = .map [("transcode", .map o.entries)] :=
  rfl

theorem CopyOperation.fields_entries {o : CopyOperation}
    (hflags : (o.dispositions.map Prod.fst).Nodup) : Fields ["title", "dispositions"] o.entries :=
  (optionalEntry_fields fun title _ => .text title).append (flagsEntry_fields hflags)

theorem TranscodeOperation.fields_entries {o : TranscodeOperation}
    (hflags : (o.dispositions.map Prod.fst).Nodup) :
    Fields ["codec", "channels", "bitrate", "title", "filters", "dispositions"] o.entries := by
  have hcodec : Fields ["codec"] [("codec", .text o.codec)] := .one (.text o.codec)
  have hchannels : Fields ["channels"] (optionalEntry "channels" .int o.channels) :=
    optionalEntry_fields fun n _ => .int n
  have hbitRate : Fields ["bitrate"] (optionalEntry "bitrate" .int o.bitRate) :=
    optionalEntry_fields fun n _ => .int n
  have htitle : Fields ["title"] (optionalEntry "title" .text o.title) :=
    optionalEntry_fields fun title _ => .text title
  have hfilters : Fields ["filters"] (optionalEntry "filters" .text o.filters) :=
    optionalEntry_fields fun filters _ => .text filters
  exact ((((hcodec.append hchannels).append hbitRate).append htitle).append hfilters).append
    (flagsEntry_fields hflags)

theorem Operation.exact_document {o : Operation} (hflags : (o.dispositions.map Prod.fst).Nodup) :
    Exact o.document := by
  cases o with
  | copy o =>
    have hbody := (CopyOperation.fields_entries hflags).exact_map (by decide)
    exact (Fields.one hbody).exact_map (by decide)
  | transcode o =>
    have hbody := (TranscodeOperation.fields_entries hflags).exact_map (by decide)
    exact (Fields.one hbody).exact_map (by decide)

/-! ## Rules -/

/-- The entries of the document of a rule. -/
def Rule.entries (r : Rule) : List (String × Value) :=
  optionalEntry "name" .text r.name ++
    [("match", r.criteria.document), ("operations", .list (r.operations.map Operation.document))]

theorem Rule.document_eq (r : Rule) : r.document = .map r.entries :=
  rfl

theorem Rule.fields_entries {r : Rule} (hr : r.DistinctFlags) :
    Fields ["name", "match", "operations"] r.entries := by
  have hname : Fields ["name"] (optionalEntry "name" .text r.name) :=
    optionalEntry_fields fun name _ => .text name
  have hcriteria : Fields ["match"] [("match", r.criteria.document)] :=
    .one (Criteria.exact_document hr.criteria)
  have hoperations : Fields ["operations"]
      [("operations", .list (r.operations.map Operation.document))] := by
    refine .one (.list ?_)
    intro v hv
    obtain ⟨o, ho, rfl⟩ := List.mem_map.1 hv
    exact Operation.exact_document (hr.operations o ho)
  exact hname.append (hcriteria.append hoperations)

theorem Rule.exact_document {r : Rule} (hr : r.DistinctFlags) : Exact r.document :=
  (fields_entries hr).exact_map (by decide)

/-- JSON holds the canonical document of a rule set exactly. -/
theorem RuleSet.exact_document {rs : RuleSet} (hrs : ∀ r ∈ rs.rules, r.DistinctFlags) :
    Exact rs.document := by
  refine .list ?_
  intro v hv
  obtain ⟨r, hr, rfl⟩ := List.mem_map.1 hv
  exact Rule.exact_document (hrs r hr)

/-! ## Looking up fields -/

theorem lookup_optionalEntry {α : Type} (key other : String) (form : α → Value) (o : Option α) :
    (optionalEntry key form o).lookup other = if other = key then o.map form else none := by
  cases o with
  | none => simp [optionalEntry]
  | some a => rw [optionalEntry, lookup_cons_ite, List.lookup_nil, Option.map_some]

/-- A list that is given if it has items. -/
def given? {α : Type} (as : List α) : Option (List α) :=
  if as.isEmpty then none else some as

theorem given?_getD {α : Type} (as : List α) : (given? as).getD [] = as := by
  cases as <;> rfl

theorem given?_injective {α : Type} {as bs : List α} (h : given? as = given? bs) : as = bs := by
  rw [← given?_getD as, h, given?_getD bs]

theorem flagsEntry_eq (flags : List (String × Bool)) :
    flagsEntry flags = optionalEntry "dispositions" flagsDocument (given? flags) := by
  cases flags <;> rfl

/-- The document form of conditions. -/
def conditionsDocument (conditions : List Condition) : Value :=
  .list (conditions.map fun c => .text c.text)

theorem conditionsEntry_eq (key : String) (conditions : List Condition) :
    conditionsEntry key conditions = optionalEntry key conditionsDocument (given? conditions) := by
  cases conditions <;> rfl

theorem Criteria.lookup_entries (c : Criteria) :
    c.entries.lookup "codecs" = some c.codecs.document ∧
      c.entries.lookup "channels" = (given? c.channels).map conditionsDocument ∧
      c.entries.lookup "bitrate" = (given? c.bitRate).map conditionsDocument ∧
      c.entries.lookup "languages" = c.languages.map textsDocument ∧
      c.entries.lookup "dispositions" = c.dispositions.map flagsDocument ∧
      c.entries.lookup "title" = c.title.map TitlePattern.document := by
  simp [entries, conditionsEntry_eq, lookup_cons_ite, List.lookup_append, lookup_optionalEntry]

theorem CopyOperation.lookup_entries (o : CopyOperation) :
    o.entries.lookup "title" = o.title.map .text ∧
      o.entries.lookup "dispositions" = (given? o.dispositions).map flagsDocument := by
  simp [entries, flagsEntry_eq, List.lookup_append, lookup_optionalEntry]

theorem TranscodeOperation.lookup_entries (o : TranscodeOperation) :
    o.entries.lookup "codec" = some (.text o.codec) ∧
      o.entries.lookup "channels" = o.channels.map .int ∧
      o.entries.lookup "bitrate" = o.bitRate.map .int ∧
      o.entries.lookup "title" = o.title.map .text ∧
      o.entries.lookup "dispositions" = (given? o.dispositions).map flagsDocument ∧
      o.entries.lookup "filters" = o.filters.map .text := by
  simp [entries, flagsEntry_eq, lookup_cons_ite, List.lookup_append, lookup_optionalEntry]

theorem Rule.lookup_entries (r : Rule) :
    r.entries.lookup "name" = r.name.map .text ∧
      r.entries.lookup "match" = some r.criteria.document ∧
      r.entries.lookup "operations" = some (.list (r.operations.map Operation.document)) := by
  simp [entries, lookup_cons_ite, List.lookup_append, lookup_optionalEntry]

end AudioPlan
