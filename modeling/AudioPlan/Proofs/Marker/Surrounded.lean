import AudioPlan.Proofs.Marker.Decoding

/-!
# Decoding a text around a marker

Decoding looks for a marker only in a text that starts with a bracket.  There it finds the token of
the one marker that the text has, wherever it stands (`decodeToken_of_one_token`).  Any other text
is taken for a bare token as a whole, and with a marker in it, it is none
(`exists_decodeToken_eq_error`).  So what stands in front of a marker decides whether its rules are
found (`decodeToken_eq_document_iff`).
-/

namespace AudioPlan

/-! ## The marker in a trimmed text -/

/-- A marker stands in a text exactly if it stands in the trimmed one. -/
theorem IsToken.infix_trim_iff {t : List Char} (ht : IsToken t) (text : List Char) :
    markerChars t <:+: Text.trim text ↔ markerChars t <:+: text :=
  ⟨fun h => h.trans (Text.trim_infix text),
    Text.infix_trim ht.markerChars_ne_nil ht.markerChars_not_blank⟩

/-- The tokens of a trimmed text are those of the text. -/
theorem mem_extractTokens_trim {t text : String} :
    t ∈ extractTokens (String.ofList (Text.trim text.toList)) ↔ t ∈ extractTokens text := by
  have hiff : ∀ ht : IsToken t.toList,
      (t ∈ extractTokens (String.ofList (Text.trim text.toList)) ↔ t ∈ extractTokens text) := by
    intro ht
    rw [mem_extractTokens_iff ht, mem_extractTokens_iff ht, String.toList_ofList,
      toList_formatMarker, ht.infix_trim_iff]
  exact ⟨fun h => (hiff (isToken_of_mem_extractTokens h)).1 h,
    fun h => (hiff (isToken_of_mem_extractTokens h)).2 h⟩

/-! ## With a bracket in front and without -/

section Bracket

variable {text : String}

theorem decodeToken_of_bare (hbracket : (Text.trim text.toList).head? ≠ some '[') :
    decodeToken text = decodeBareToken (Text.trim text.toList) := by
  unfold decodeToken
  split
  · rename_i rest htrim
    rw [htrim] at hbracket
    exact absurd rfl hbracket
  · rfl

/-- In a text that starts with a bracket the first marker counts. -/
theorem decodeToken_of_bracket (hbracket : (Text.trim text.toList).head? = some '[') :
    decodeToken text = match extractTokens (String.ofList (Text.trim text.toList)) with
      | first :: _ => decodeBareToken first.toList
      | [] => .error (.notMarker (String.ofList (Text.trim text.toList))) := by
  obtain ⟨rest, hrest⟩ := List.head?_eq_some_iff.1 hbracket
  unfold decodeToken
  rw [extractTokens, String.toList_ofList, hrest]
  simp only []
  cases tokensFrom 0 ('[' :: rest) with
  | nil => rfl
  | cons first others => simp only [List.map_cons, String.toList_ofList]

end Bracket

section OneToken

variable {t text : String} (htokens : extractTokens text = [t])

include htokens

/-- In a text that starts with a bracket the one token is found wherever its marker stands. -/
theorem decodeToken_of_one_token (hbracket : (Text.trim text.toList).head? = some '[') :
    decodeToken text = decodeBareToken t.toList := by
  have hmem : ∀ u, u ∈ extractTokens (String.ofList (Text.trim text.toList)) ↔ u = t := by
    intro u
    rw [mem_extractTokens_trim, htokens, List.mem_singleton]
  rw [decodeToken_of_bracket hbracket]
  cases hfound : extractTokens (String.ofList (Text.trim text.toList)) with
  | nil =>
    rw [hfound] at hmem
    exact absurd ((hmem t).2 rfl) List.not_mem_nil
  | cons first others =>
    rw [hfound] at hmem
    rw [(hmem first).1 List.mem_cons_self]

/-- Any other text with a token is refused, for a character that no token can have. -/
theorem exists_decodeToken_eq_error (hbracket : (Text.trim text.toList).head? ≠ some '[') :
    (∃ c ∈ Text.trim text.toList, 0x7f < c.toNat) ∧ decodeToken text = .error .notAscii ∨
      (∀ c ∈ Text.trim text.toList, c.toNat ≤ 0x7f) ∧
        ∃ problem, decodeToken text = .error (.notBase64 problem) := by
  have hopen : '[' ∈ Text.trim text.toList := by
    have hmem : t ∈ extractTokens text := htokens ▸ List.mem_singleton_self t
    have ht := isToken_of_mem_extractTokens hmem
    rw [mem_extractTokens_iff ht, toList_formatMarker, ← ht.infix_trim_iff] at hmem
    obtain ⟨cs, hcs, -⟩ := exists_markerChars_eq_cons ht
    exact hmem.subset (hcs ▸ List.mem_cons_self)
  rw [decodeToken_of_bare hbracket]
  unfold decodeBareToken
  by_cases hascii : ((Text.trim text.toList).any fun c => 0x7f < c.toNat) = true
  · rw [if_pos hascii]
    exact .inl ⟨by simpa using hascii, rfl⟩
  · obtain ⟨problem, hproblem⟩ := Text.exists_decodeBase64_eq_error (by decide) (by decide) hopen
    rw [if_neg hascii, hproblem]
    exact .inr ⟨by simpa using hascii, problem, rfl⟩

end OneToken

/-- A text with one marker decodes to the rules of the marker exactly if it starts with a bracket,
apart from blanks.  Any other text around a marker is refused: as one that is no base64 or, if it
has characters of more than one byte, before that is looked at. -/
theorem decodeToken_eq_document_iff {d : Value} {rs : RuleSet} (hvalid : validate d = .ok rs)
    {text : String} (htokens : extractTokens text = [rs.token]) :
    ((decodeToken text).map Value.list = .ok rs.document ↔
        (Text.trim text.toList).head? = some '[') ∧
      ((Text.trim text.toList).head? ≠ some '[' →
        (∃ c ∈ Text.trim text.toList, 0x7f < c.toNat) ∧ decodeToken text = .error .notAscii ∨
          (∀ c ∈ Text.trim text.toList, c.toNat ≤ 0x7f) ∧
            ∃ problem, decodeToken text = .error (.notBase64 problem)) := by
  refine ⟨⟨fun hdecoded => ?_, fun hbracket => ?_⟩, exists_decodeToken_eq_error htokens⟩
  · by_contra hbracket
    rcases exists_decodeToken_eq_error htokens hbracket with ⟨-, herror⟩ | ⟨-, problem, herror⟩
    · rw [herror] at hdecoded
      cases hdecoded
    · rw [herror] at hdecoded
      cases hdecoded
  · rw [decodeToken_of_one_token htokens hbracket,
      decodeBareToken_token (rs.exact_document (validate_distinctFlags hvalid))]
    rfl

/-- Behind a year in brackets the marker is found; behind a notice in words it is not, nor behind
one with a sign of more than one byte. -/
theorem decodeToken_behind_notice :
    let marker := RuleSet.watermark ⟨[commentaryRule]⟩
    validate commentaryDocument = .ok ⟨[commentaryRule]⟩ ∧
      (∀ notice ∈ ["[2024] ", "Copyright 2024 ", "\u00a9 2024 "],
        extractTokens (appendMarker (some notice) marker) = [RuleSet.token ⟨[commentaryRule]⟩]) ∧
      (decodeToken (appendMarker (some "[2024] ") marker)).map Value.list =
        .ok (RuleSet.document ⟨[commentaryRule]⟩) ∧
      (∃ problem, decodeToken (appendMarker (some "Copyright 2024 ") marker) =
        .error (.notBase64 problem)) ∧
      decodeToken (appendMarker (some "\u00a9 2024 ") marker) = .error .notAscii := by
  intro marker
  have hchars : ∀ notice : String, (appendMarker (some notice) marker).toList =
      notice.toList ++ markerChars (RuleSet.token ⟨[commentaryRule]⟩).toList := by
    intro notice
    rw [appendMarker, Option.getD_some, String.toList_append]
    exact congrArg _ (toList_formatMarker _)
  have htokens : ∀ notice ∈ ["[2024] ", "Copyright 2024 ", "\u00a9 2024 "],
      extractTokens (appendMarker (some notice) marker) = [RuleSet.token ⟨[commentaryRule]⟩] := by
    have hnone : ∀ notice ∈ ["[2024] ", "Copyright 2024 ", "\u00a9 2024 "],
        extractTokens notice = [] := by
      decide +kernel
    intro notice hnotice
    rw [appendMarker, Option.getD_some, extractTokens_append_watermark, hnone notice hnotice,
      List.nil_append]
  have hfirst : ∀ (c : Char) (notice : String) (rest : List Char), notice.toList = c :: rest →
      Text.isBlank c = false →
      (Text.trim (appendMarker (some notice) marker).toList).head? = some c := by
    intro c notice rest hnotice hc
    rw [hchars, hnotice, List.cons_append]
    exact Text.head?_trim_cons hc _
  have hbracketed := hfirst '[' "[2024] " _ rfl (by decide)
  have hword := hfirst 'C' "Copyright 2024 " _ rfl (by decide)
  have hsign := hfirst '\u00a9' "\u00a9 2024 " _ rfl (by decide)
  refine ⟨validate_commentary, htokens, ?_, ?_, ?_⟩
  · have htoken := htokens "[2024] " (by simp)
    exact (decodeToken_eq_document_iff validate_commentary htoken).1.2 hbracketed
  · have htoken := htokens "Copyright 2024 " (by simp)
    have hplain : ("Copyright 2024 ".toList.all fun c => c.toNat ≤ 0x7f) = true := by decide +kernel
    rcases (decodeToken_eq_document_iff validate_commentary htoken).2 (by rw [hword]; decide) with
      ⟨⟨c, hc, hlarge⟩, -⟩ | ⟨-, hproblem⟩
    · have htrim := Text.trim_infix (appendMarker (some "Copyright 2024 ") marker).toList
      have hmem := htrim.subset hc
      rw [hchars, List.mem_append] at hmem
      rcases hmem with hmem | hmem
      · have hsmall := List.all_eq_true.1 hplain c hmem
        rw [decide_eq_true_eq] at hsmall
        omega
      · have hbounds := (RuleSet.isToken_token _).markerChars_printable c hmem
        omega
    · exact hproblem
  · have htoken := htokens "\u00a9 2024 " (by simp)
    rcases (decodeToken_eq_document_iff validate_commentary htoken).2 (by rw [hsign]; decide) with
      ⟨-, herror⟩ | ⟨hsmall, -⟩
    · exact herror
    · exact absurd (hsmall _ (List.mem_of_head? hsign)) (by decide)

end AudioPlan
