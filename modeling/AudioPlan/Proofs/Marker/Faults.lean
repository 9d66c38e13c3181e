import AudioPlan.Proofs.Log.Success
import AudioPlan.Proofs.Marker.Surrounded

/-!
# Errors of decoding

What comes of decoding a text, for every text (`decodeToken_faults_iff`).  It gives the list that
the token in the text holds, or it reports the first layer of the token that cannot be read, or that
there is no token.  One error is not reported but is a fault: a text that is taken for a token by
itself and has a character of more than one byte stops the decoding before base64 is looked at.

* `Decodes` says what comes of a token, with one constructor for each layer that may fail, and
  `decodeBareToken_eq_iff` that nothing else can;
* `TakenFor` says which characters of a text are taken for a token;
* `Reported` lists the errors that are reported.
-/

namespace AudioPlan

/-! ## Tokens -/

/-- A token holds a text: it is the UTF-8 of the text in base64. -/
def TokenSpells (token : List Char) (payload : String) : Prop :=
  Text.decodeBase64 token = .ok (Text.encodeUtf8 payload.toList)

/-- What comes of a token.  The layers are read from the outermost one to the innermost one. -/
inductive Decodes (token : List Char) : Except DecodeError (List Value) → Prop where
  | notAscii {c : Char} (hc : c ∈ token) (hlarge : 0x7f < c.toNat) :
      Decodes token (.error .notAscii)
  | notBase64 {problem : Text.Base64Problem} (hascii : ∀ c ∈ token, c.toNat ≤ 0x7f)
      (hproblem : Text.decodeBase64 token = .error problem) :
      Decodes token (.error (.notBase64 problem))
  | notUtf8 {bytes : List UInt8} {fault : Text.Utf8Fault}
      (hbytes : Text.decodeBase64 token = .ok bytes)
      (hfault : Text.decodeUtf8 bytes = .error fault) :
      Decodes token (.error (.notUtf8 fault))
  | notJson {payload : String} {error : Json.SyntaxError} (hpayload : TokenSpells token payload)
      (herror : Json.read payload = .error error) :
      Decodes token (.error (.notJson error))
  | notList {payload : String} {v : Value} (hpayload : TokenSpells token payload)
      (hread : Json.read payload = .ok v) (hlist : ∀ items, v ≠ .list items) :
      Decodes token (.error .notList)
  | list {payload : String} {items : List Value} (hpayload : TokenSpells token payload)
      (hread : Json.read payload = .ok (.list items)) :
      Decodes token (.ok items)

section Tokens

variable {token : List Char}

/-- Base64 has no characters of more than one byte. -/
theorem toNat_le_of_decodeBase64 {bytes : List UInt8} (h : Text.decodeBase64 token = .ok bytes) :
    ∀ c ∈ token, c.toNat ≤ 0x7f := by
  intro c hc
  by_contra hlarge
  have hvalue : Text.base64Value? c = none := by
    rw [← Option.not_isSome_iff_eq_none]
    intro hsome
    have hbounds := Text.toNat_of_base64Value? hsome
    omega
  have hpadding : c ≠ '=' := by
    rintro rfl
    exact hlarge (by decide)
  obtain ⟨problem, hproblem⟩ := Text.exists_decodeBase64_eq_error hvalue hpadding hc
  exact nomatch h.symm.trans hproblem

/-- A token of plain characters is read layer by layer. -/
theorem decodeBareToken_of_ascii (hascii : ∀ c ∈ token, c.toNat ≤ 0x7f) :
    decodeBareToken token = (do
      let bytes ← (Text.decodeBase64 token).mapError .notBase64
      let payload ← (Text.decodeUtf8 bytes).mapError .notUtf8
      match ← (Json.read (String.ofList payload)).mapError .notJson with
      | .list items => return items
      | _ => throw .notList) := by
  have hplain : ¬ token.any (fun c => 0x7f < c.toNat) = true := by
    rw [List.any_eq_true]
    rintro ⟨c, hc, hlarge⟩
    rw [decide_eq_true_eq] at hlarge
    exact absurd (hascii c hc) (by omega)
  unfold decodeBareToken
  exact if_neg hplain

/-- Of a token that holds a text, only the text matters. -/
theorem decodeBareToken_of_spells {payload : String} (h : TokenSpells token payload) :
    decodeBareToken token = (do
      match ← (Json.read payload).mapError .notJson with
      | .list items => return items
      | _ => throw .notList) := by
  rw [decodeBareToken_of_ascii (toNat_le_of_decodeBase64 h), h]
  simp only [Except.mapError, bind, Except.bind, Text.decodeUtf8_encodeUtf8, String.ofList_toList]

theorem Decodes.eq {r : Except DecodeError (List Value)} (h : Decodes token r) :
    decodeBareToken token = r := by
  cases h with
  | notAscii hc hlarge =>
    unfold decodeBareToken
    rw [if_pos (List.any_eq_true.2 ⟨_, hc, decide_eq_true hlarge⟩)]
    rfl
  | notBase64 hascii hproblem =>
    rw [decodeBareToken_of_ascii hascii, hproblem]
    rfl
  | notUtf8 hbytes hfault =>
    rw [decodeBareToken_of_ascii (toNat_le_of_decodeBase64 hbytes), hbytes]
    simp only [Except.mapError, bind, Except.bind, hfault]
  | notJson hpayload herror =>
    rw [decodeBareToken_of_spells hpayload, herror]
    rfl
  | notList hpayload hread hlist =>
    rw [decodeBareToken_of_spells hpayload, hread]
    simp only [Except.mapError, bind, Except.bind]
    rfl
  | list hpayload hread =>
    rw [decodeBareToken_of_spells hpayload, hread]
    rfl

theorem exists_decodes (token : List Char) : ∃ r, Decodes token r := by
  by_cases hlarge : ∃ c ∈ token, 0x7f < c.toNat
  · obtain ⟨c, hc, hlarge⟩ := hlarge
    exact ⟨_, .notAscii hc hlarge⟩
  cases hbytes : Text.decodeBase64 token with
  | error problem =>
    exact ⟨_, .notBase64 (fun c hc => Nat.not_lt.1 fun hlt => hlarge ⟨c, hc, hlt⟩) hbytes⟩
  | ok bytes =>
    cases hcs : Text.decodeUtf8 bytes with
    | error fault => exact ⟨_, .notUtf8 hbytes hcs⟩
    | ok cs =>
      have hpayload : TokenSpells token (String.ofList cs) := by
        rw [TokenSpells, String.toList_ofList, Text.decodeUtf8_eq_ok_iff.1 hcs, hbytes]
      cases hread : Json.read (String.ofList cs) with
      | error error => exact ⟨_, .notJson hpayload hread⟩
      | ok v =>
        by_cases hlist : ∃ items, v = .list items
        · obtain ⟨items, rfl⟩ := hlist
          exact ⟨_, .list hpayload hread⟩
        · exact ⟨_, .notList hpayload hread (not_exists.1 hlist)⟩

/-- Decoding a token has just the results that are listed. -/
theorem decodeBareToken_eq_iff {r : Except DecodeError (List Value)} :
    decodeBareToken token = r ↔ Decodes token r := by
  refine ⟨?_, Decodes.eq⟩
  rintro rfl
  obtain ⟨r, hr⟩ := exists_decodes token
  exact hr.eq.symm ▸ hr

end Tokens

/-! ## Texts -/

/-- The characters of a text that are taken for a token: those of the first marker if the text
starts with a bracket, and otherwise all of them, without the blanks around them. -/
inductive TakenFor (text : String) : List Char → Prop where
  | bare (hbracket : (Text.trim text.toList).head? ≠ some '[') :
      TakenFor text (Text.trim text.toList)
  | marker {first : String} {others : List String}
      (hbracket : (Text.trim text.toList).head? = some '[')
      (hfound : extractTokens (String.ofList (Text.trim text.toList)) = first :: others) :
      TakenFor text first.toList

/-- The errors that decoding a text reports: that there is no marker where one has to be, or that
the token cannot be read. -/
inductive Reported (text : String) : DecodeError → Prop where
  | notMarker (hbracket : (Text.trim text.toList).head? = some '[')
      (hnone : extractTokens (String.ofList (Text.trim text.toList)) = []) :
      Reported text (.notMarker (String.ofList (Text.trim text.toList)))
  | notRead {token : List Char} {e : DecodeError} (htoken : TakenFor text token)
      (he : e ≠ .notAscii) (hdecodes : Decodes token (.error e)) : Reported text e

section Texts

variable {text : String}

theorem TakenFor.decodeToken_eq {token : List Char} (h : TakenFor text token) :
    decodeToken text = decodeBareToken token := by
  cases h with
  | bare hbracket => exact decodeToken_of_bare hbracket
  | marker hbracket hfound => rw [decodeToken_of_bracket hbracket, hfound]

/-- In a marker there are plain characters only. -/
theorem TakenFor.bare_of_large {token : List Char} (h : TakenFor text token) {c : Char}
    (hc : c ∈ token) (hlarge : 0x7f < c.toNat) :
    (Text.trim text.toList).head? ≠ some '[' ∧ token = Text.trim text.toList := by
  cases h with
  | bare hbracket => exact ⟨hbracket, rfl⟩
  | @marker first others hbracket hfound =>
    have htoken := isToken_of_mem_extractTokens (hfound ▸ List.mem_cons_self)
    have hbounds := htoken.printable c hc
    omega

theorem exists_takenFor (text : String) : (∃ token, TakenFor text token) ∨
    (Text.trim text.toList).head? = some '[' ∧
      extractTokens (String.ofList (Text.trim text.toList)) = [] := by
  by_cases hbracket : (Text.trim text.toList).head? = some '['
  · cases hfound : extractTokens (String.ofList (Text.trim text.toList)) with
    | nil => exact .inr ⟨hbracket, rfl⟩
    | cons first others => exact .inl ⟨_, .marker hbracket hfound⟩
  · exact .inl ⟨_, .bare hbracket⟩

/-- Decoding a text is decoding the token that it takes, unless there is none. -/
theorem decodeToken_eq_iff {r : Except DecodeError (List Value)} :
    decodeToken text = r ↔ (∃ token, TakenFor text token ∧ Decodes token r) ∨
      (Text.trim text.toList).head? = some '[' ∧
        extractTokens (String.ofList (Text.trim text.toList)) = [] ∧
          r = .error (.notMarker (String.ofList (Text.trim text.toList))) := by
  constructor
  · rintro rfl
    rcases exists_takenFor text with ⟨token, htoken⟩ | ⟨hbracket, hnone⟩
    · rw [htoken.decodeToken_eq]
      exact .inl ⟨token, htoken, decodeBareToken_eq_iff.1 rfl⟩
    · rw [decodeToken_of_bracket hbracket, hnone]
      exact .inr ⟨hbracket, rfl, rfl⟩
  · rintro (⟨token, htoken, hdecodes⟩ | ⟨hbracket, hnone, rfl⟩)
    · rw [htoken.decodeToken_eq, hdecodes.eq]
    · rw [decodeToken_of_bracket hbracket, hnone]

theorem reported_iff {e : DecodeError} (he : e ≠ .notAscii) :
    decodeToken text = .error e ↔ Reported text e := by
  rw [decodeToken_eq_iff]
  constructor
  · rintro (⟨token, htoken, hdecodes⟩ | ⟨hbracket, hnone, h⟩)
    · exact .notRead htoken he hdecodes
    · cases h
      exact .notMarker hbracket hnone
  · rintro (⟨hbracket, hnone⟩ | ⟨htoken, -, hdecodes⟩)
    · exact .inr ⟨hbracket, hnone, rfl⟩
    · exact .inl ⟨_, htoken, hdecodes⟩

end Texts

/-- Decoding a text faults exactly if the text is taken for a token by itself and has a character of
more than one byte.  It gives a list exactly if the token that it takes is the base64 of the UTF-8
of JSON for that list.  In all other cases it reports what is wrong. -/
theorem decodeToken_faults_iff (text : String) :
    (decodeToken text = .error .notAscii ↔
      (Text.trim text.toList).head? ≠ some '[' ∧
        ∃ c ∈ Text.trim text.toList, 0x7f < c.toNat) ∧
    (∀ items, decodeToken text = .ok items ↔
      ∃ token payload, TakenFor text token ∧ TokenSpells token payload ∧
        Json.read payload = .ok (.list items)) ∧
    ∀ e, e = .notAscii ∨ (decodeToken text = .error e ↔ Reported text e) := by
  refine ⟨?_, fun items => ?_, fun e => or_iff_not_imp_left.2 reported_iff⟩
  · rw [decodeToken_eq_iff]
    constructor
    · rintro (⟨token, htoken, hdecodes⟩ | ⟨-, -, h⟩)
      · cases hdecodes with
        | notAscii hc hlarge =>
          obtain ⟨hbracket, rfl⟩ := htoken.bare_of_large hc hlarge
          exact ⟨hbracket, _, hc, hlarge⟩
      · cases h
    · rintro ⟨hbracket, c, hc, hlarge⟩
      exact .inl ⟨_, .bare hbracket, .notAscii hc hlarge⟩
  · rw [decodeToken_eq_iff]
    constructor
    · rintro (⟨token, htoken, hdecodes⟩ | ⟨-, -, h⟩)
      · cases hdecodes with
        | list hpayload hread => exact ⟨token, _, htoken, hpayload, hread⟩
      · cases h
    · rintro ⟨token, payload, htoken, hpayload, hread⟩
      exact .inl ⟨token, htoken, .list hpayload hread⟩

-- A letter with an accent is a fault in a token, and behind a bracket it is no marker.
example : decodeToken "caf\u00e9" = .error .notAscii := by rfl
example : decodeToken "[caf\u00e9]" = .error (.notMarker "[caf\u00e9]") := by rfl

end AudioPlan
