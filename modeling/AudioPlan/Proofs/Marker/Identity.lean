import AudioPlan.Proofs.Marker.Decoding
import AudioPlan.Proofs.Rule.Canonical

/-!
# A marker stands for one rule set

Different rule sets have different canonical documents (`RuleSet.document_injective`): what stands
under a key of the document of a rule determines that part of the rule.  A token is decoded to the
document it was made of, so rule sets that were read from documents have one marker only if they are
equal (`watermark_eq_iff`).

To have the rule set itself back, the document is validated again.  That gives the rule set unless
one of its title patterns has two backslashes side by side (`validate_decodeToken_iff`).
-/

namespace AudioPlan

/-! ## Documents of single values -/

theorem text_injective : Function.Injective Value.text :=
  fun _ _ => Value.text.inj

theorem int_injective : Function.Injective Value.int :=
  fun _ _ => Value.int.inj

theorem textsDocument_injective : Function.Injective textsDocument := by
  intro texts others h
  exact List.map_injective_iff.2 text_injective (Value.list.inj h)

theorem conditionsDocument_injective : Function.Injective conditionsDocument := by
  intro conditions others h
  exact List.map_injective_iff.2 (text_injective.comp Condition.text_injective) (Value.list.inj h)

theorem flagsDocument_injective : Function.Injective flagsDocument := by
  intro flags others h
  refine List.map_injective_iff.2 ?_ (Value.map.inj h)
  rintro ⟨flag, b⟩ ⟨flag', b'⟩ heq
  cases heq
  rfl

theorem TitlePattern.document_injective : Function.Injective TitlePattern.document := by
  rintro ⟨pattern, caseSensitive⟩ ⟨pattern', caseSensitive'⟩ h
  cases h
  rfl

/-- The three forms of a selector are a list, the text `*` and texts that start with `!`. -/
theorem Selector.document_injective : Function.Injective Selector.document := by
  intro s t h
  cases s with
  | all =>
    cases t with
    | all => rfl
    | anyOf codecs => cases h
    | allExcept codec => exact absurd h (star_ne_append codec)
  | anyOf codecs =>
    cases t with
    | all => cases h
    | anyOf others => rw [textsDocument_injective h]
    | allExcept codec => cases h
  | allExcept codec =>
    cases t with
    | all => exact absurd h.symm (star_ne_append codec)
    | anyOf codecs => cases h
    | allExcept other => rw [codec_inj h]

/-! ## Documents of rules -/

/-- A list that is left out when it is empty can be told from its form. -/
theorem given?_map_injective {α : Type} {form : List α → Value} (hform : Function.Injective form)
    {as bs : List α} (h : (given? as).map form = (given? bs).map form) : as = bs :=
  given?_injective (Option.map_injective hform h)

theorem Criteria.document_injective : Function.Injective Criteria.document := by
  intro c d h
  have hentries : c.entries = d.entries := Value.map.inj h
  obtain ⟨hcodecs, hchannels, hbitRate, hlanguages, hflags, htitle⟩ := c.lookup_entries
  obtain ⟨hcodecs', hchannels', hbitRate', hlanguages', hflags', htitle'⟩ := d.lookup_entries
  rw [hentries] at hcodecs hchannels hbitRate hlanguages hflags htitle
  have codecs : c.codecs = d.codecs :=
    Selector.document_injective (Option.some.inj (hcodecs.symm.trans hcodecs'))
  have channels : c.channels = d.channels :=
    given?_map_injective conditionsDocument_injective (hchannels.symm.trans hchannels')
  have bitRate : c.bitRate = d.bitRate :=
    given?_map_injective conditionsDocument_injective (hbitRate.symm.trans hbitRate')
  have languages : c.languages = d.languages :=
    Option.map_injective textsDocument_injective (hlanguages.symm.trans hlanguages')
  have dispositions : c.dispositions = d.dispositions :=
    Option.map_injective flagsDocument_injective (hflags.symm.trans hflags')
  have title : c.title = d.title :=
    Option.map_injective TitlePattern.document_injective (htitle.symm.trans htitle')
  cases c
  cases d
  simp_all

theorem CopyOperation.entries_injective : Function.Injective CopyOperation.entries := by
  intro o p h
  obtain ⟨htitle, hflags⟩ := o.lookup_entries
  obtain ⟨htitle', hflags'⟩ := p.lookup_entries
  rw [h] at htitle hflags
  have title : o.title = p.title :=
    Option.map_injective text_injective (htitle.symm.trans htitle')
  have dispositions : o.dispositions = p.dispositions :=
    given?_map_injective flagsDocument_injective (hflags.symm.trans hflags')
  cases o
  cases p
  simp_all

theorem TranscodeOperation.entries_injective : Function.Injective TranscodeOperation.entries := by
  intro o p h
  obtain ⟨hcodec, hchannels, hbitRate, htitle, hflags, hfilters⟩ := o.lookup_entries
  obtain ⟨hcodec', hchannels', hbitRate', htitle', hflags', hfilters'⟩ := p.lookup_entries
  rw [h] at hcodec hchannels hbitRate htitle hflags hfilters
  have codec : o.codec = p.codec :=
    text_injective (Option.some.inj (hcodec.symm.trans hcodec'))
  have channels : o.channels = p.channels :=
    Option.map_injective int_injective (hchannels.symm.trans hchannels')
  have bitRate : o.bitRate = p.bitRate :=
    Option.map_injective int_injective (hbitRate.symm.trans hbitRate')
  have title : o.title = p.title :=
    Option.map_injective text_injective (htitle.symm.trans htitle')
  have dispositions : o.dispositions = p.dispositions :=
    given?_map_injective flagsDocument_injective (hflags.symm.trans hflags')
  have filters : o.filters = p.filters :=
    Option.map_injective text_injective (hfilters.symm.trans hfilters')
  cases o
  cases p
  simp_all

/-- The two kinds of operation stand under different names. -/
theorem Operation.document_injective : Function.Injective Operation.document := by
  intro o p h
  cases o with
  | copy o =>
    cases p with
    | copy p =>
      rw [document_copy, document_copy] at h
      simp only [Value.map.injEq, List.cons.injEq, Prod.mk.injEq, true_and, and_true] at h
      rw [CopyOperation.entries_injective h]
    | transcode p => simp [document_copy, document_transcode] at h
  | transcode o =>
    cases p with
    | copy p => simp [document_copy, document_transcode] at h
    | transcode p =>
      rw [document_transcode, document_transcode] at h
      simp only [Value.map.injEq, List.cons.injEq, Prod.mk.injEq, true_and, and_true] at h
      rw [TranscodeOperation.entries_injective h]

theorem Rule.document_injective : Function.Injective Rule.document := by
  intro r s h
  have hentries : r.entries = s.entries := Value.map.inj h
  obtain ⟨hname, hcriteria, hoperations⟩ := r.lookup_entries
  obtain ⟨hname', hcriteria', hoperations'⟩ := s.lookup_entries
  rw [hentries] at hname hcriteria hoperations
  have name : r.name = s.name :=
    Option.map_injective text_injective (hname.symm.trans hname')
  have criteria : r.criteria = s.criteria :=
    Criteria.document_injective (Option.some.inj (hcriteria.symm.trans hcriteria'))
  have operations : r.operations = s.operations :=
    List.map_injective_iff.2 Operation.document_injective
      (Value.list.inj (Option.some.inj (hoperations.symm.trans hoperations')))
  cases r
  cases s
  simp_all

/-- Different rule sets have different canonical documents. -/
theorem RuleSet.document_injective : Function.Injective RuleSet.document := by
  rintro ⟨rules⟩ ⟨others⟩ h
  have hrules : rules = others :=
    List.map_injective_iff.2 Rule.document_injective (Value.list.inj h)
  rw [hrules]

/-! ## Markers -/

theorem formatMarker_injective : Function.Injective formatMarker := by
  intro t u h
  have hchars := congrArg String.toList h
  simp only [formatMarker, String.toList_append] at hchars
  exact String.toList_inj.1 (List.append_cancel_left (List.append_cancel_right hchars))

/-- The token of a rule set decides its document, where JSON holds the document exactly. -/
theorem token_inj {rs rs' : RuleSet} (hrs : Json.Exact rs.document) (hrs' : Json.Exact rs'.document)
    (h : rs.token = rs'.token) : rs = rs' := by
  have hdecoded := decodeBareToken_token hrs
  rw [h, decodeBareToken_token hrs'] at hdecoded
  exact RuleSet.document_injective (congrArg Value.list (Except.ok.inj hdecoded).symm)

/-- Rule sets that were read from documents have one marker exactly when they are equal.  So the
markers that are made of them, where both can be made, are the same exactly when they are equal. -/
theorem watermark_eq_iff {d d' : Value} {rs rs' : RuleSet} (hvalid : validate d = .ok rs)
    (hvalid' : validate d' = .ok rs') :
    (rs.watermark = rs'.watermark ↔ rs = rs') ∧
      ∀ marker marker', rs.marker = .ok marker → rs'.marker = .ok marker' →
        (marker = marker' ↔ rs = rs') := by
  have hiff : rs.watermark = rs'.watermark ↔ rs = rs' := by
    constructor
    · intro h
      exact token_inj (rs.exact_document (validate_distinctFlags hvalid))
        (rs'.exact_document (validate_distinctFlags hvalid')) (formatMarker_injective h)
    · rintro rfl
      rfl
  refine ⟨hiff, fun marker marker' hmarker hmarker' => ?_⟩
  obtain ⟨-, rfl⟩ := marker_eq_ok_iff.1 hmarker
  obtain ⟨-, rfl⟩ := marker_eq_ok_iff.1 hmarker'
  exact hiff

/-- A document with one rule, which copies every track and sets flags in order. -/
def flagsRuleDocument (flags : List (String × Bool)) : Value :=
  .list [.map [
    ("match", .map [("codecs", .text "*")]),
    ("operations", .list [.map [("copy", .map [("dispositions", flagsDocument flags)])]])]]

/-- The rule that the document describes. -/
def flagsRule (flags : List (String × Bool)) : Rule where
  criteria := { codecs := .all }
  operations := [.copy { dispositions := flags }]

/-- The order of flags counts. -/
theorem watermark_eq_iff_reordered :
    let rs : RuleSet := ⟨[flagsRule [("default", true), ("forced", false)]]⟩
    let rs' : RuleSet := ⟨[flagsRule [("forced", false), ("default", true)]]⟩
    validate (flagsRuleDocument [("default", true), ("forced", false)]) = .ok rs ∧
      validate (flagsRuleDocument [("forced", false), ("default", true)]) = .ok rs' ∧
      ∃ marker marker', rs.marker = .ok marker ∧ rs'.marker = .ok marker' ∧ marker ≠ marker' := by
  intro rs rs'
  have hvalid : validate (flagsRuleDocument [("default", true), ("forced", false)]) = .ok rs := by
    decide +kernel
  have hvalid' : validate (flagsRuleDocument [("forced", false), ("default", true)]) = .ok rs' := by
    decide +kernel
  have hmarker : rs.marker = .ok rs.watermark :=
    marker_of_writable (RuleSet.fits_document_iff.1 (by decide +kernel))
  have hmarker' : rs'.marker = .ok rs'.watermark :=
    marker_of_writable (RuleSet.fits_document_iff.1 (by decide +kernel))
  refine ⟨hvalid, hvalid', _, _, hmarker, hmarker', fun hsame => ?_⟩
  have hrules := ((watermark_eq_iff hvalid hvalid').2 _ _ hmarker hmarker').1 hsame
  exact absurd hrules (by decide)

/-! ## Back to the rules -/

/-- The document in the marker of a rule set that was read validates to that rule set again, except
where a title pattern has two backslashes side by side: those are collapsed a second time. -/
theorem validate_decodeToken_iff {d : Value} {rs : RuleSet} (hvalid : validate d = .ok rs) :
    ∃ items, decodeToken rs.watermark = .ok items ∧
      (validate (.list items) = .ok rs ↔ rs.NoDoubledBackslash) := by
  refine ⟨rs.rules.map Rule.document, ?_, validate_document_iff hvalid⟩
  rw [decodeToken_watermark]
  exact decodeBareToken_token (rs.exact_document (validate_distinctFlags hvalid))

/-- Four backslashes are read as two, for a literal backslash, and do not come back as two. -/
theorem validate_decodeToken_four_backslashes :
    let rs : RuleSet := ⟨[titleRule "\\\\"]⟩
    validate (titleRuleDocument "\\\\\\\\") = .ok rs ∧
      ∃ items, decodeToken rs.watermark = .ok items ∧
        (validate (.list items) = .ok rs ↔ rs.NoDoubledBackslash) ∧
        validate (.list items) ≠ .ok rs := by
  intro rs
  have hvalid : validate (titleRuleDocument "\\\\\\\\") = .ok rs := by decide +kernel
  obtain ⟨items, hitems, hiff⟩ := validate_decodeToken_iff hvalid
  refine ⟨hvalid, items, hitems, hiff, ?_⟩
  intro hread
  have hpattern := hiff.1 hread _ List.mem_cons_self _ rfl
  exact hpattern ⟨[], [], by decide⟩

end AudioPlan
