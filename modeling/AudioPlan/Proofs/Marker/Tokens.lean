import AudioPlan.Marker
import AudioPlan.Proofs.Marker.Writable
import AudioPlan.Proofs.Text.Base64
import AudioPlan.Proofs.Text.Search
import AudioPlan.Proofs.Text.Utf8

/-!
# Tokens of marker texts

A marker opens with a bracket and has no other one in it.  So the scan for tokens starts afresh at
every opening bracket (`tokensFrom_append`), and the tokens of a text with a marker in it are those
before the marker, the token of the marker, and those behind it (`extractTokens_append_marker`).
The guard against processing twice, which looks for the marker anywhere in a text, therefore finds
exactly the tokens that the scan finds (`alreadyProcessed_iff`), also in texts that markers were
added to (`detection_exact`).
-/

namespace AudioPlan

/-! ## Single markers -/

/-- What may stand in a marker: data in the alphabet, and at most two signs of padding. -/
def IsToken (t : List Char) : Prop :=
  ∃ data pads, t = data ++ List.replicate pads '=' ∧ data ≠ [] ∧
    (∀ c ∈ data, (Text.base64Value? c).isSome = true) ∧ pads ≤ 2

/-- The characters of the marker around a token. -/
def markerChars (t : List Char) : List Char :=
  markerStart.toList ++ (t ++ [']'])

theorem toList_formatMarker (t : String) : (formatMarker t).toList = markerChars t.toList := by
  rw [formatMarker, String.toList_append, String.toList_append, List.append_assoc]
  rfl

theorem length_markerChars (t : List Char) :
    (markerChars t).length = markerStart.length + t.length + 1 := by
  rw [markerChars, List.length_append, List.length_append, List.length_singleton,
    String.length_toList, Nat.add_assoc]

theorem IsToken.ne_nil {t : List Char} (ht : IsToken t) : t ≠ [] := by
  obtain ⟨data, pads, rfl, hne, -⟩ := ht
  exact List.append_ne_nil_of_left_ne_nil hne _

theorem IsToken.bracket_not_mem {t : List Char} (ht : IsToken t) : '[' ∉ t := by
  obtain ⟨data, pads, rfl, -, hdata, -⟩ := ht
  intro hmem
  rcases List.mem_append.1 hmem with hmem | hmem
  · exact absurd (hdata _ hmem) (by decide)
  · exact absurd (List.eq_of_mem_replicate hmem) (by decide)

/-- A marker opens with a bracket and has no other opening bracket. -/
theorem exists_markerChars_eq_cons {t : List Char} (ht : IsToken t) :
    ∃ cs, markerChars t = '[' :: cs ∧ '[' ∉ cs := by
  refine ⟨_, rfl, ?_⟩
  show '[' ∉ "trackrules:audio_rules:".toList ++ (t ++ [']'])
  rw [List.mem_append, List.mem_append, not_or, not_or]
  exact ⟨by decide, ht.bracket_not_mem, by decide⟩

theorem takeWhile_append_cons {p : Char → Bool} {cs : List Char} {c : Char}
    (hcs : ∀ x ∈ cs, p x = true) (hc : p c = false) (rest : List Char) :
    (cs ++ c :: rest).takeWhile p = cs ∧ (cs ++ c :: rest).dropWhile p = c :: rest := by
  have hneg : ¬ p c = true := by
    rw [hc]
    exact Bool.false_ne_true
  rw [List.takeWhile_append_of_pos hcs, List.dropWhile_append_of_pos hcs,
    List.takeWhile_cons_of_neg hneg, List.dropWhile_cons_of_neg hneg, List.append_nil]
  exact ⟨rfl, rfl⟩

/-- What the scan finds in front is a token with its marker around it. -/
theorem exists_of_tokenAt?_eq_some {cs t : List Char} (h : tokenAt? cs = some t) :
    IsToken t ∧ ∃ rest, cs = markerChars t ++ rest := by
  obtain ⟨rest, hrest, h⟩ := Option.bind_eq_some_iff.1 h
  rw [Text.dropFront?_eq_some_iff] at hrest
  simp only [List.isEmpty_iff, Bool.or_eq_true, decide_eq_true_eq, beq_iff_eq] at h
  -- The data and the padding that the scan cuts off, and what is left behind them.
  have hall := List.all_takeWhile (p := fun c => (Text.base64Value? c).isSome) (l := rest)
  have hdata : rest.takeWhile (fun c => (Text.base64Value? c).isSome) ++
    rest.dropWhile (fun c => (Text.base64Value? c).isSome) = rest :=
      List.takeWhile_append_dropWhile
  generalize rest.takeWhile (fun c => (Text.base64Value? c).isSome) = data at h hall hdata
  generalize rest.dropWhile (fun c => (Text.base64Value? c).isSome) = after at h hdata
  have hallPads := List.all_takeWhile (p := (· == '=')) (l := after)
  have hpads : after.takeWhile (· == '=') ++ after.dropWhile (· == '=') = after :=
    List.takeWhile_append_dropWhile
  generalize after.takeWhile (· == '=') = pads at h hallPads hpads
  generalize after.dropWhile (· == '=') = behind at h hpads
  by_cases hshape : data = [] ∨ 2 < pads.length
  · rw [if_pos hshape] at h
    cases h
  · rw [if_neg hshape] at h
    rw [not_or] at hshape
    by_cases hhead : behind.head? = some ']'
    · rw [if_pos hhead] at h
      cases h
      have hreplicate : pads = List.replicate pads.length '=' :=
        List.eq_replicate_of_mem fun c hc => by simpa using List.all_eq_true.1 hallPads c hc
      obtain ⟨tail, rfl⟩ := List.head?_eq_some_iff.1 hhead
      refine ⟨⟨data, pads.length, by rw [← hreplicate], hshape.1, List.all_eq_true.1 hall,
        by omega⟩, tail, ?_⟩
      rw [hrest, ← hdata, ← hpads, markerChars]
      simp only [List.append_assoc, List.singleton_append]
    · rw [if_neg hhead] at h
      cases h

theorem tokenAt?_markerChars {t : List Char} (ht : IsToken t) (rest : List Char) :
    tokenAt? (markerChars t ++ rest) = some t := by
  obtain ⟨data, pads, rfl, hne, hdata, hpads⟩ := ht
  have hdrop : Text.dropFront? markerStart.toList
      (markerChars (data ++ List.replicate pads '=') ++ rest) =
        some (data ++ (List.replicate pads '=' ++ ']' :: rest)) := by
    rw [Text.dropFront?_eq_some_iff, markerChars]
    simp only [List.append_assoc, List.singleton_append]
  have hspan : (data ++ (List.replicate pads '=' ++ ']' :: rest)).takeWhile
        (fun c => (Text.base64Value? c).isSome) = data ∧
      (data ++ (List.replicate pads '=' ++ ']' :: rest)).dropWhile
        (fun c => (Text.base64Value? c).isSome) = List.replicate pads '=' ++ ']' :: rest := by
    cases pads with
    | zero => exact takeWhile_append_cons hdata (by decide) rest
    | succ pads => exact takeWhile_append_cons hdata (by decide) _
  have hpadding : ∀ c ∈ List.replicate pads '=', (c == '=') = true := by simp
  have hspanPads := takeWhile_append_cons hpadding (c := ']') rfl rest
  have hshape : ¬ (data = [] ∨ 2 < pads) := not_or.2 ⟨hne, by omega⟩
  rw [tokenAt?, hdrop]
  simp only [Option.bind_eq_bind, Option.bind_some, hspan, hspanPads, List.isEmpty_iff,
    List.length_replicate, Bool.or_eq_true, decide_eq_true_eq, List.head?_cons, beq_self_eq_true]
  rw [if_neg hshape, if_pos trivial]

/-- A token is found in front exactly when its marker stands there. -/
theorem tokenAt?_eq_some_iff {cs t : List Char} :
    tokenAt? cs = some t ↔ IsToken t ∧ ∃ rest, cs = markerChars t ++ rest := by
  constructor
  · exact exists_of_tokenAt?_eq_some
  · rintro ⟨ht, rest, rfl⟩
    exact tokenAt?_markerChars ht rest

/-! ## The scan -/

/-- A marker in front of an opening bracket lies before it as a whole. -/
theorem tokenAt?_append {p : List Char} (hp : p ≠ []) (s : List Char) :
    tokenAt? (p ++ '[' :: s) = tokenAt? p := by
  refine Option.ext fun t => ?_
  rw [tokenAt?_eq_some_iff, tokenAt?_eq_some_iff]
  constructor
  · rintro ⟨ht, rest, heq⟩
    refine ⟨ht, ?_⟩
    obtain ⟨cs, hcs, hbracket⟩ := exists_markerChars_eq_cons ht
    rcases List.append_eq_append_iff.1 heq with ⟨tail, htail, hrest⟩ | ⟨tail, htail, -⟩
    · cases tail with
      | nil =>
        rw [List.append_nil] at htail
        exact ⟨[], by rw [List.append_nil, htail]⟩
      | cons c tail =>
        -- The bracket would stand inside the marker.
        cases p with
        | nil => exact absurd rfl hp
        | cons d p =>
          rw [hcs, List.cons_append] at htail
          rw [List.cons_append] at hrest
          have hmem : '[' ∈ cs := by
            rw [(List.cons.inj htail).2, (List.cons.inj hrest).1]
            exact List.mem_append_right p List.mem_cons_self
          exact absurd hmem hbracket
    · exact ⟨tail, htail⟩
  · rintro ⟨ht, rest, rfl⟩
    exact ⟨ht, rest ++ '[' :: s, List.append_assoc _ _ _⟩

/-- The scan starts afresh at every opening bracket. -/
theorem tokensFrom_append {skip : Nat} {p : List Char} (hskip : skip ≤ p.length) (s : List Char) :
    tokensFrom skip (p ++ '[' :: s) = tokensFrom skip p ++ tokensFrom 0 ('[' :: s) := by
  induction p generalizing skip with
  | nil =>
    obtain rfl : skip = 0 := Nat.le_zero.1 hskip
    rfl
  | cons c p ih =>
    cases skip with
    | succ skip =>
      rw [List.cons_append, tokensFrom, tokensFrom]
      exact ih (Nat.le_of_succ_le_succ hskip)
    | zero =>
      have hfront := tokenAt?_append (List.cons_ne_nil c p) s
      rw [List.cons_append] at hfront
      rw [List.cons_append, tokensFrom, tokensFrom, hfront]
      cases htoken : tokenAt? (c :: p) with
      | none => exact ih (Nat.zero_le _)
      | some t =>
        -- The marker ends before the bracket, so what is skipped for it does too.
        obtain ⟨-, rest, heq⟩ := exists_of_tokenAt?_eq_some htoken
        have hlength := congrArg List.length heq
        rw [List.length_cons, List.length_append, length_markerChars] at hlength
        have hrest := ih (show markerStart.length + t.length ≤ p.length by omega)
        simp only [hrest, List.cons_append]

theorem tokensFrom_skip (p s : List Char) : tokensFrom p.length (p ++ s) = tokensFrom 0 s := by
  induction p with
  | nil => rfl
  | cons c p ih =>
    rw [List.length_cons, List.cons_append, tokensFrom]
    exact ih

/-- Behind a marker the scan starts afresh. -/
theorem tokensFrom_marker {t : List Char} (ht : IsToken t) (s : List Char) :
    tokensFrom 0 (markerChars t ++ s) = t :: tokensFrom 0 s := by
  have htoken := tokenAt?_markerChars ht s
  have hlength := length_markerChars t
  obtain ⟨cs, hcs, -⟩ := exists_markerChars_eq_cons ht
  rw [hcs, List.length_cons] at hlength
  rw [hcs, List.cons_append] at htoken
  rw [hcs, List.cons_append, tokensFrom, htoken]
  simp only []
  rw [← Nat.succ.inj hlength, tokensFrom_skip]

/-- The tokens of a text are tokens, and their markers stand in the text. -/
theorem mem_tokensFrom {skip : Nat} {cs t : List Char} (ht : t ∈ tokensFrom skip cs) :
    IsToken t ∧ markerChars t <:+: cs := by
  induction cs generalizing skip with
  | nil =>
    cases skip <;> exact absurd ht List.not_mem_nil
  | cons c cs ih =>
    have hlater : ∀ skip, t ∈ tokensFrom skip cs → IsToken t ∧ markerChars t <:+: c :: cs := by
      intro skip hmem
      obtain ⟨htoken, hinfix⟩ := ih hmem
      exact ⟨htoken, hinfix.trans (List.infix_cons (List.infix_refl cs))⟩
    cases skip with
    | succ skip => exact hlater skip ht
    | zero =>
      rw [tokensFrom] at ht
      cases htoken : tokenAt? (c :: cs) with
      | none =>
        rw [htoken] at ht
        exact hlater 0 ht
      | some u =>
        rw [htoken] at ht
        rcases List.mem_cons.1 ht with rfl | ht
        · obtain ⟨hu, rest, heq⟩ := exists_of_tokenAt?_eq_some htoken
          rw [heq]
          exact ⟨hu, (List.prefix_append _ _).isInfix⟩
        · exact hlater _ ht

/-! ## Texts with markers -/

/-- The tokens of a text with a marker in it, in order. -/
theorem extractTokens_append_marker {t : String} (ht : IsToken t.toList) (before after : String) :
    extractTokens (before ++ formatMarker t ++ after) =
      extractTokens before ++ t :: extractTokens after := by
  have hscan : tokensFrom 0 (before.toList ++ (markerChars t.toList ++ after.toList)) =
      tokensFrom 0 before.toList ++ t.toList :: tokensFrom 0 after.toList := by
    have hmarker := tokensFrom_marker ht after.toList
    obtain ⟨cs, hcs, -⟩ := exists_markerChars_eq_cons ht
    rw [hcs, List.cons_append] at hmarker ⊢
    rw [tokensFrom_append (Nat.zero_le _), hmarker]
  rw [extractTokens, String.toList_append, String.toList_append, toList_formatMarker,
    List.append_assoc, hscan, List.map_append, List.map_cons, String.ofList_toList]
  rfl

theorem isToken_of_mem_extractTokens {t text : String} (h : t ∈ extractTokens text) :
    IsToken t.toList := by
  obtain ⟨cs, hcs, rfl⟩ := List.mem_map.1 h
  rw [String.toList_ofList]
  exact (mem_tokensFrom hcs).1

/-- The scan finds a token exactly where its marker stands. -/
theorem mem_extractTokens_iff {t text : String} (ht : IsToken t.toList) :
    t ∈ extractTokens text ↔ (formatMarker t).toList <:+: text.toList := by
  constructor
  · intro h
    obtain ⟨cs, hcs, rfl⟩ := List.mem_map.1 h
    rw [toList_formatMarker, String.toList_ofList]
    exact (mem_tokensFrom hcs).2
  · rintro ⟨before, after, heq⟩
    have htext : text = String.ofList before ++ formatMarker t ++ String.ofList after := by
      rw [← String.toList_inj, String.toList_append, String.toList_append, String.toList_ofList,
        String.toList_ofList, heq]
    rw [htext, extractTokens_append_marker ht]
    exact List.mem_append_right _ List.mem_cons_self

/-- The guard finds exactly the tokens that the scan finds. -/
theorem alreadyProcessed_iff {t : String} (ht : IsToken t.toList) (prior : String) :
    alreadyProcessed (some prior) (formatMarker t) = true ↔ t ∈ extractTokens prior := by
  rw [mem_extractTokens_iff ht, alreadyProcessed, Bool.and_eq_true, Text.occursIn_iff_infix]
  refine ⟨And.right, fun hinfix => ⟨?_, hinfix⟩⟩
  have hlength := hinfix.length_le
  rw [toList_formatMarker, length_markerChars] at hlength
  rw [Bool.not_eq_true', ← Bool.not_eq_true, String.isEmpty_iff]
  rintro rfl
  simp at hlength

/-! ## The token of a rule set -/

namespace RuleSet

variable (rs : RuleSet)

theorem toList_payload : rs.payload.toList = Json.compact.write 0 rs.document :=
  String.toList_ofList

theorem toList_token : rs.token.toList = Text.encodeBase64 (Text.encodeUtf8 rs.payload.toList) :=
  String.toList_ofList

theorem payload_ne_nil : rs.payload.toList ≠ [] := by
  rw [toList_payload, document]
  cases rs.rules.map Rule.document with
  | nil => exact List.cons_ne_nil _ _
  | cons v vs => exact List.cons_ne_nil _ _

/-- The token of a rule set can stand in a marker. -/
theorem isToken_token : IsToken rs.token.toList := by
  rw [toList_token]
  exact Text.exists_encodeBase64_eq_append (Text.encodeUtf8_ne_nil rs.payload_ne_nil)

end RuleSet

/-! ## The guard -/

/-- Behind the tokens of a text stands that of the marker that was added to it. -/
theorem extractTokens_append_watermark (text : String) (rs : RuleSet) :
    extractTokens (text ++ rs.watermark) = extractTokens text ++ [rs.token] := by
  have htokens := extractTokens_append_marker rs.isToken_token text ""
  rwa [String.append_empty] at htokens

/-- The guard finds the marker of a rule set where the scan finds its token; a missing text has no
tokens. -/
theorem alreadyProcessed_watermark_iff (prior : Option String) (rs : RuleSet) :
    alreadyProcessed prior rs.watermark = true ↔ rs.token ∈ extractTokens (prior.getD "") := by
  cases prior with
  | none => exact iff_of_false Bool.false_ne_true List.not_mem_nil
  | some text => exact alreadyProcessed_iff rs.isToken_token text

/-- The guard is exact for the markers that are made, which are the watermarks of rule sets.  It
finds the marker of a rule set where the scan finds its token; a marker that is added to a text adds
its token behind those of the text, whatever the text ends in; and from then on the guard finds what
it found before and the marker that was added. -/
theorem detection_exact (prior : Option String) (rs added : RuleSet) :
    (∀ marker, rs.marker = .ok marker ↔ rs.Writable ∧ rs.watermark = marker) ∧
      (alreadyProcessed prior rs.watermark = true ↔ rs.token ∈ extractTokens (prior.getD "")) ∧
      extractTokens (appendMarker prior added.watermark) =
        extractTokens (prior.getD "") ++ [added.token] ∧
      (alreadyProcessed (some (appendMarker prior added.watermark)) rs.watermark = true ↔
        alreadyProcessed prior rs.watermark = true ∨ rs.token = added.token) := by
  have htokens : extractTokens (appendMarker prior added.watermark) =
      extractTokens (prior.getD "") ++ [added.token] :=
    extractTokens_append_watermark _ _
  refine ⟨fun _ => marker_eq_ok_iff, alreadyProcessed_watermark_iff prior rs, htokens, ?_⟩
  rw [alreadyProcessed_watermark_iff, alreadyProcessed_watermark_iff, Option.getD_some, htokens,
    List.mem_append, List.mem_singleton]

/-- A marker that was cut short takes nothing away from the one behind it. -/
example : extractTokens ("[trackrules:audio_rules:QU" ++ formatMarker "QUJD") = ["QUJD"] := by
  decide +kernel

end AudioPlan
