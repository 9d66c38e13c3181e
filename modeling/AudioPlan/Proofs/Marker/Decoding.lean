import AudioPlan.Proofs.Marker.Tokens
import AudioPlan.Proofs.Rule.Document
import AudioPlan.Proofs.Text.Blank

/-!
# From a marker back to the rules

The token of a rule set holds its canonical document, and decoding gives the document back, from the
token by itself and from a text that starts with the marker (`decodeToken_token`).  Each layer of
the token is undone by the reader of that layer: base64, then UTF-8, then compact JSON.
-/

namespace AudioPlan

/-! ## Characters of markers -/

/-- The characters of a token are plain and no blanks. -/
theorem IsToken.printable {t : List Char} (ht : IsToken t) :
    ∀ c ∈ t, 0x20 < c.toNat ∧ c.toNat < 0x7f := by
  obtain ⟨data, pads, rfl, -, hdata, -⟩ := ht
  intro c hc
  rcases List.mem_append.1 hc with hc | hc
  · have hbounds := Text.toNat_of_base64Value? (hdata c hc)
    omega
  · rw [List.eq_of_mem_replicate hc]
    decide

theorem IsToken.markerChars_printable {t : List Char} (ht : IsToken t) :
    ∀ c ∈ markerChars t, 0x20 < c.toNat ∧ c.toNat < 0x7f := by
  have hstart : markerStart.toList.all (fun c => 0x20 < c.toNat && c.toNat < 0x7f) = true := by
    decide +kernel
  intro c hc
  rw [markerChars, List.mem_append, List.mem_append, List.mem_singleton] at hc
  rcases hc with hc | hc | rfl
  · simpa using List.all_eq_true.1 hstart c hc
  · exact ht.printable c hc
  · decide

theorem IsToken.markerChars_ne_nil {t : List Char} (ht : IsToken t) : markerChars t ≠ [] := by
  obtain ⟨cs, hcs, -⟩ := exists_markerChars_eq_cons ht
  rw [hcs]
  exact List.cons_ne_nil _ _

theorem IsToken.markerChars_not_blank {t : List Char} (ht : IsToken t) :
    ∀ c ∈ markerChars t, Text.isBlank c = false := fun c hc =>
  Text.isBlank_of_printable (ht.markerChars_printable c hc).1 (ht.markerChars_printable c hc).2

/-! ## Decoding -/

/-- The token of a rule set whose document JSON holds exactly decodes to that document. -/
theorem decodeBareToken_token {rs : RuleSet} (hrs : Json.Exact rs.document) :
    decodeBareToken rs.token.toList = .ok (rs.rules.map Rule.document) := by
  have hplain : ¬ rs.token.toList.any (fun c => 0x7f < c.toNat) = true := by
    rw [List.any_eq_true]
    rintro ⟨c, hc, hlarge⟩
    have hbounds := rs.isToken_token.printable c hc
    rw [decide_eq_true_eq] at hlarge
    omega
  have hread : Json.read (String.ofList rs.payload.toList) =
      .ok (.list (rs.rules.map Rule.document)) := by
    rw [String.ofList_toList]
    exact Json.read_text Json.compact_standard hrs
  unfold decodeBareToken
  rw [if_neg hplain, rs.toList_token, Text.decodeBase64_encodeBase64]
  simp only [Except.mapError, bind, Except.bind, Text.decodeUtf8_encodeUtf8, hread]
  rfl

theorem decodeToken_of_trim_token {text : String} {t : List Char} (ht : IsToken t)
    (htrim : Text.trim text.toList = t) : decodeToken text = decodeBareToken t := by
  unfold decodeToken
  rw [htrim]
  split
  · rename_i rest
    exact absurd List.mem_cons_self ht.bracket_not_mem
  · rfl

theorem decodeToken_of_trim_marker {text : String} {t rest : List Char} (ht : IsToken t)
    (htrim : Text.trim text.toList = markerChars t ++ rest) :
    decodeToken text = decodeBareToken t := by
  have hscan := tokensFrom_marker ht rest
  obtain ⟨cs, hcs, -⟩ := exists_markerChars_eq_cons ht
  rw [hcs, List.cons_append] at htrim hscan
  unfold decodeToken
  rw [htrim]
  simp only [hscan]

/-- A marker by itself decodes to what its token decodes to. -/
theorem decodeToken_watermark (rs : RuleSet) :
    decodeToken rs.watermark = decodeBareToken rs.token.toList := by
  have htoken := rs.isToken_token
  have hnothing : ∀ c ∈ ([] : List Char), Text.isBlank c = true := by simp
  have htrim : Text.trim rs.watermark.toList = markerChars rs.token.toList ++ [] := by
    have h := Text.trim_append htoken.markerChars_ne_nil htoken.markerChars_not_blank hnothing []
    rw [List.append_nil, List.nil_append, Text.trimEnd_of_isBlank hnothing] at h
    rw [RuleSet.watermark, toList_formatMarker]
    exact h
  exact decodeToken_of_trim_marker htoken htrim

/-- The token and the marker of a rule set that was read from a document decode to its canonical
document.  Blanks may stand around either, and any text behind the marker. -/
theorem decodeToken_token {d : Value} {rs : RuleSet} (hvalid : validate d = .ok rs)
    {before after : String} (hbefore : ∀ c ∈ before.toList, Text.isBlank c = true)
    (hafter : ∀ c ∈ after.toList, Text.isBlank c = true) (behind : String) :
    (decodeToken (before ++ rs.token ++ after)).map Value.list = .ok rs.document ∧
      (decodeToken (before ++ rs.watermark ++ after)).map Value.list = .ok rs.document ∧
      (decodeToken (rs.watermark ++ behind)).map Value.list = .ok rs.document := by
  have hbare := decodeBareToken_token (rs.exact_document (validate_distinctFlags hvalid))
  have htoken := rs.isToken_token
  have hblank : ∀ c ∈ rs.token.toList, Text.isBlank c = false := fun c hc =>
    Text.isBlank_of_printable (htoken.printable c hc).1 (htoken.printable c hc).2
  have hblankMarker : ∀ c ∈ markerChars rs.token.toList, Text.isBlank c = false := fun c hc =>
    Text.isBlank_of_printable (htoken.markerChars_printable c hc).1
      (htoken.markerChars_printable c hc).2
  have hmarker : markerChars rs.token.toList ≠ [] := by
    obtain ⟨cs, hcs, -⟩ := exists_markerChars_eq_cons htoken
    rw [hcs]
    exact List.cons_ne_nil _ _
  refine ⟨?_, ?_, ?_⟩
  · have htrim : Text.trim (before ++ rs.token ++ after).toList = rs.token.toList := by
      rw [String.toList_append, String.toList_append, List.append_assoc,
        Text.trim_append htoken.ne_nil hblank hbefore, Text.trimEnd_of_isBlank hafter,
        List.append_nil]
    rw [decodeToken_of_trim_token htoken htrim, hbare]
    rfl
  · have htrim : Text.trim (before ++ rs.watermark ++ after).toList =
        markerChars rs.token.toList ++ [] := by
      rw [String.toList_append, String.toList_append, List.append_assoc, RuleSet.watermark,
        toList_formatMarker, Text.trim_append hmarker hblankMarker hbefore,
        Text.trimEnd_of_isBlank hafter]
    rw [decodeToken_of_trim_marker htoken htrim, hbare]
    rfl
  · have hnothing : ∀ c ∈ ([] : List Char), Text.isBlank c = true := by simp
    have htrim : Text.trim (rs.watermark ++ behind).toList =
        markerChars rs.token.toList ++ Text.trimEnd behind.toList := by
      rw [String.toList_append, RuleSet.watermark, toList_formatMarker]
      exact Text.trim_append hmarker hblankMarker hnothing behind.toList
    rw [decodeToken_of_trim_marker htoken htrim, hbare]
    rfl

theorem decodeToken_commentary :
    validate commentaryDocument = .ok ⟨[commentaryRule]⟩ ∧
    (decodeToken (" \t" ++ RuleSet.token ⟨[commentaryRule]⟩ ++ "\n")).map Value.list =
      .ok (RuleSet.document ⟨[commentaryRule]⟩) ∧
    (decodeToken (" \t" ++ RuleSet.watermark ⟨[commentaryRule]⟩ ++ "\n")).map Value.list =
      .ok (RuleSet.document ⟨[commentaryRule]⟩) ∧
    (decodeToken (RuleSet.watermark ⟨[commentaryRule]⟩ ++ " (c) [2024]")).map Value.list =
      .ok (RuleSet.document ⟨[commentaryRule]⟩) :=
  ⟨validate_commentary, decodeToken_token validate_commentary
    (List.all_eq_true.1 (by decide +kernel)) (List.all_eq_true.1 (by decide +kernel))
    " (c) [2024]"⟩

end AudioPlan
