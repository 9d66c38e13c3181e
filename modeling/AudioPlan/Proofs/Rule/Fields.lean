import AudioPlan.Proofs.Binary64.Integers
import AudioPlan.Proofs.Json.Decoded
import AudioPlan.Proofs.Rule.Checked
import AudioPlan.Proofs.Rule.Condition
import AudioPlan.Rule.Validation

/-!
# What single fields may hold

One equivalence for the check of each kind of field: texts, codecs, conditions, truth values, flags
and counts.  Each says which values pass and what is read from them, in terms of the document alone.

* `TextsOf` relates one text, or a list of texts, to the texts;
* `DenotesTruth` is the meaning of the spellings of a truth value;
* `DenotesCount` is the meaning of a number of channels or bits.
-/

namespace AudioPlan

open Json (Decoded)

/-- In JSON an object is a mapping with texts for keys. -/
theorem fields?_eq_some_iff {v : Value} (hv : Decoded v) {fields : List (Value × Value)} :
    v.fields? = some fields ↔ ∃ entries, v = .map entries ∧ fields = textKeys entries := by
  cases hv with
  | map hkeys hentries => simp [fields?_map, eq_comm]
  | _ => simp [Value.fields?]

/-! ## Texts -/

theorem checkText_eq_good {v : Value} {s : String} : checkText v = .good s ↔ v = .text s := by
  unfold checkText
  split
  · simp
  · rename_i hv
    constructor
    · intro h
      exact absurd h (Checked.fail_ne_good _ _)
    · intro h
      exact absurd h (hv s)

/-- A text stands for itself alone, a list of texts for its items. -/
inductive TextsOf : Value → List String → Prop
  | one (s : String) : TextsOf (.text s) [s]
  | many (texts : List String) : TextsOf (.list (texts.map .text)) texts

theorem textItems_eq_good {field : String} {position : Nat} {items : List Value}
    {texts : List String} :
    textItems field position items = .good texts ↔ items = texts.map .text := by
  induction items generalizing position texts with
  | nil => cases texts <;> simp [textItems]
  | cons v items ih =>
    cases v with
    | text s =>
      rw [textItems, Checked.map_eq_good]
      cases texts with
      | nil => simp
      | cons t texts =>
        simp only [ih, List.cons.injEq, List.map_cons, Value.text.injEq]
        constructor
        · rintro ⟨rest, hrest, rfl, rfl⟩
          exact ⟨rfl, hrest⟩
        · rintro ⟨rfl, hrest⟩
          exact ⟨texts, hrest, rfl, rfl⟩
    | _ => cases texts <;> simp [textItems]

theorem checkTexts_eq_good {field : String} {v : Value} {texts : List String} :
    checkTexts field v = .good texts ↔ TextsOf v texts := by
  unfold checkTexts
  split
  · rename_i s
    constructor
    · intro h
      cases h
      exact .one s
    · intro h
      cases h
      rfl
  · rename_i items
    rw [textItems_eq_good]
    constructor
    · rintro rfl
      exact .many texts
    · intro h
      cases h
      rfl
  · rename_i htext hlist
    constructor
    · intro h
      exact absurd h (Checked.fail_ne_good _ _)
    · intro h
      cases h with
      | one s => exact absurd rfl (htext s)
      | many texts => exact absurd rfl (hlist _)

/-- A value stands for one list of texts at most. -/
theorem TextsOf.unique {v : Value} {texts others : List String} (h : TextsOf v texts)
    (h' : TextsOf v others) : texts = others := by
  have hread : checkTexts "" v = .good texts := checkTexts_eq_good.2 h
  rw [checkTexts_eq_good.2 h'] at hread
  exact (Checked.good.inj hread).symm

/-! ## Codecs -/

/-- Codecs are a list of names, `*` for all of them, or `!` with the name of the one left out. -/
inductive DenotesCodecs : Value → Selector → Prop
  | anyOf (codecs : List String) :
      DenotesCodecs (.list (codecs.map .text)) (.anyOf (codecs.map Text.lowerText))
  | all : DenotesCodecs (.text "*") .all
  | allExcept {codec : String} (hcodec : codec ≠ "") :
      DenotesCodecs (.text ("!" ++ codec)) (.allExcept (Text.lowerText codec))

/-- The text for all codecs has no exclamation mark in front. -/
theorem star_ne_append (codec : String) : Value.text "*" ≠ .text ("!" ++ codec) := by
  intro h
  have hchars := congrArg String.toList (Value.text.inj h)
  rw [String.toList_append] at hchars
  exact absurd (List.cons.inj hchars).1 (by decide)

theorem codec_inj {codec other : String} (h : Value.text ("!" ++ codec) = .text ("!" ++ other)) :
    codec = other := by
  have hchars := congrArg String.toList (Value.text.inj h)
  rw [String.toList_append, String.toList_append] at hchars
  exact String.toList_inj.1 (List.append_cancel_left hchars)

theorem checkCodecs_eq_good {v : Value} {selector : Selector} :
    checkCodecs v = .good selector ↔ DenotesCodecs v selector := by
  constructor
  · intro h
    unfold checkCodecs at h
    split at h
    · obtain ⟨codecs, hcodecs, rfl⟩ := Checked.map_eq_good.1 h
      rw [textItems_eq_good.1 hcodecs]
      exact .anyOf codecs
    · rename_i s
      split at h
      · rename_i hs
        cases h
        rw [← String.ofList_toList (s := s), hs]
        exact .all
      · rename_i c rest hs
        cases h
        have htext : s = "!" ++ String.ofList (c :: rest) := by
          rw [← String.toList_inj, hs, String.toList_append, String.toList_ofList]
          rw [String.toList_ofList]
          rfl
        have hlower : String.ofList (Text.lower (c :: rest)) =
            Text.lowerText (String.ofList (c :: rest)) := by
          rw [Text.lowerText, String.toList_ofList]
        rw [htext, hlower]
        exact .allExcept (by simp)
      · exact absurd h (Checked.fail_ne_good _ _)
    · exact absurd h (Checked.fail_ne_good _ _)
  · intro h
    cases h with
    | anyOf codecs => exact Checked.map_eq_good.2 ⟨codecs, textItems_eq_good.2 rfl, rfl⟩
    | all => rfl
    | @allExcept codec hcodec =>
      obtain ⟨c, rest, hchars⟩ : ∃ c rest, codec.toList = c :: rest :=
        List.exists_cons_of_ne_nil (by simpa using hcodec)
      have hs : ("!" ++ codec).toList = '!' :: c :: rest := by
        rw [String.toList_append, hchars]
        rfl
      simp only [checkCodecs, hs, Text.lowerText, hchars]

/-! ## Conditions -/

theorem readConditions_eq_good {texts : List String} {conditions : List Condition} :
    readConditions texts = .good conditions ↔
      List.Forall₂ (fun s (c : Condition) => c.SpelledBy s) texts conditions := by
  induction texts generalizing conditions with
  | nil =>
    rw [readConditions, List.forall₂_nil_left_iff, Checked.good.injEq]
    exact eq_comm
  | cons s texts ih =>
    rw [readConditions, List.forall₂_cons_left_iff]
    cases hs : Condition.ofText? s with
    | none =>
      have hno : ∀ c : Condition, ¬ c.SpelledBy s := by
        intro c hc
        rw [Condition.ofText?_eq_some_iff.2 hc] at hs
        cases hs
      simp [hno]
    | some c =>
      have hc : ∀ d : Condition, d.SpelledBy s ↔ d = c := by
        intro d
        rw [← Condition.ofText?_eq_some_iff, hs, Option.some.injEq]
        exact eq_comm
      simp only [Checked.map_eq_good, ih, hc]
      constructor
      · rintro ⟨rest, hrest, rfl⟩
        exact ⟨c, rest, rfl, hrest, rfl⟩
      · rintro ⟨d, rest, rfl, hrest, rfl⟩
        exact ⟨rest, hrest, rfl⟩

theorem checkConditions_eq_good {field : String} {v : Value} {conditions : List Condition} :
    checkConditions field v = .good conditions ↔
      (v = .null ∧ conditions = []) ∨
        ∃ texts, TextsOf v texts ∧
          List.Forall₂ (fun s (c : Condition) => c.SpelledBy s) texts conditions := by
  unfold checkConditions
  split
  · have hnull : ∀ texts, ¬ TextsOf .null texts := by
      intro texts h
      cases h
    simp [hnull, eq_comm]
  · rename_i hv
    have hne : ¬ v = .null := hv
    have htexts : ∀ texts, TextsOf v texts ↔ checkTexts field v = .good texts := fun texts =>
      checkTexts_eq_good.symm
    simp only [hne, false_and, false_or, htexts]
    cases checkTexts field v with
    | good texts => simp [readConditions_eq_good]
    | bad first rest => simp

/-! ## Truth values -/

/-- The words for a truth value, in small letters. -/
def truthWords : Bool → List String
  | false => ["0", "off", "f", "false", "n", "no"]
  | true => ["1", "on", "t", "true", "y", "yes"]

/-- A truth value is written as such, as the number 0 or 1, or as a word in any letter case. -/
inductive DenotesTruth : Value → Bool → Prop
  | value (b : Bool) : DenotesTruth (.bool b) b
  | number {v : Value} {b : Bool} (hnumber : v.isNumber = true)
      (hequals : v.equalsInt b.toNat = true) : DenotesTruth v b
  | word {s : String} {b : Bool} (hword : s.map Char.toLower ∈ truthWords b) :
      DenotesTruth (.text s) b

theorem truthWord?_eq_some_iff {s : String} {b : Bool} :
    truthWord? s = some b ↔ s ∈ truthWords b := by
  constructor
  · intro h
    unfold truthWord? at h
    split at h
    all_goals
      cases h
      try decide
  · intro h
    cases b with
    | false =>
      simp only [truthWords, List.mem_cons, List.not_mem_nil, or_false] at h
      rcases h with rfl | rfl | rfl | rfl | rfl | rfl <;> rfl
    | true =>
      simp only [truthWords, List.mem_cons, List.not_mem_nil, or_false] at h
      rcases h with rfl | rfl | rfl | rfl | rfl | rfl <;> rfl

theorem truthText_eq_good {s : String} {b : Bool} :
    truthText s = .good b ↔ s.map Char.toLower ∈ truthWords b := by
  rw [← truthWord?_eq_some_iff, truthText]
  cases truthWord? (s.map Char.toLower) with
  | none => simp
  | some c => simp

theorem truthNumber_eq_good {n : Int} {b : Bool} :
    truthNumber n = .good b ↔ n = b.toNat := by
  unfold truthNumber
  split
  · cases b <;> simp
  · cases b <;> simp
  · rename_i hzero hone
    constructor
    · intro h
      exact absurd h (Checked.fail_ne_good _ _)
    · rintro rfl
      cases b with
      | false => exact absurd rfl hzero
      | true => exact absurd rfl hone

theorem isMachineSized_toNat (b : Bool) {n : Int} (hn : n = b.toNat) : isMachineSized n = true := by
  rw [hn]
  cases b <;> rfl

theorem isProperSized_toNat (b : Bool) {n : Int} (hn : n = b.toNat) :
    (isMachineSized n && n != -0x8000000000000000) = true := by
  rw [hn]
  cases b <;> rfl

/-- The integers 0 and 1 and no others of machine size are truth values. -/
theorem truthInt_eq_good {n : Int} {b : Bool} {small : Bool} {cause : Cause}
    (hsmall : n = b.toNat → small = true) :
    (if small then truthNumber n else .fail cause) = .good b ↔ n = b.toNat := by
  by_cases h : small = true
  · rw [if_pos h, truthNumber_eq_good]
  · rw [if_neg h]
    constructor
    · intro hfail
      exact absurd hfail (Checked.fail_ne_good _ _)
    · intro hn
      exact absurd (hsmall hn) h

/-- Every spelling of a truth value is read as that value. -/
theorem DenotesTruth.readTruth_eq {v : Value} {b : Bool} (h : DenotesTruth v b) :
    readTruth v = .good b := by
  cases h with
  | value => rw [readTruth]
  | number hnumber hequals =>
    rcases Value.equalsInt_iff.1 hequals with ⟨c, rfl, hc⟩ | rfl | ⟨x, rfl, hx⟩
    · have hcb : c = b := by
        cases c <;> cases b <;> first | rfl | cases hc
      rw [hcb, readTruth]
    · rw [readTruth]
      exact (truthInt_eq_good (isMachineSized_toNat b ·)).2 rfl
    · rw [readTruth]
      simp only [hx]
      exact (truthInt_eq_good (isProperSized_toNat b ·)).2 rfl
  | word hword => exact truthText_eq_good.2 hword

theorem readTruth_eq_good {v : Value} (hv : Decoded v) {b : Bool} :
    readTruth v = .good b ↔ DenotesTruth v b := by
  refine ⟨fun h => ?_, DenotesTruth.readTruth_eq⟩
  cases hv with
  | null => cases h
  | bool c =>
    cases h
    exact .value _
  | int n =>
    have hn : n = b.toNat := (truthInt_eq_good (isMachineSized_toNat b ·)).1 h
    exact .number rfl (Value.equalsInt_iff.2 (.inr (.inl (by rw [hn]))))
  | float x =>
    rw [readTruth] at h
    cases hx : x.toInt? with
    | none => simp [hx] at h
    | some n =>
      simp only [hx] at h
      rw [(truthInt_eq_good (isProperSized_toNat b ·)).1 h] at hx
      exact .number rfl (Value.equalsInt_iff.2 (.inr (.inr ⟨x, rfl, hx⟩)))
  | text s => exact .word (truthText_eq_good.1 h)
  | list _ => cases h
  | map _ _ => cases h

theorem DenotesTruth.unique {v : Value} (hv : Decoded v) {b b' : Bool} (h : DenotesTruth v b)
    (h' : DenotesTruth v b') : b = b' := by
  have hread := (readTruth_eq_good hv).2 h
  rw [(readTruth_eq_good hv).2 h'] at hread
  exact (Checked.good.inj hread).symm

/-! ## Flags -/

theorem checkTruth_eq_good {v : Value} {b : Bool} : checkTruth v = .good b ↔ v = .bool b := by
  cases v <;> simp [checkTruth]

/-- Flags stand in an object, in order, with truth values that `denotes` reads. -/
def FlagsOf (denotes : Value → Bool → Prop) (v : Value) (flags : List (String × Bool)) : Prop :=
  ∃ entries, v = .map entries ∧
    List.Forall₂ (fun entry flag => entry.1 = flag.1 ∧ denotes entry.2 flag.2) entries flags

theorem keys_eq_of_forall₂ {α β : Type} {R : String × α → String × β → Prop}
    {entries : List (String × α)} {flags : List (String × β)}
    (h : List.Forall₂ (fun entry flag => entry.1 = flag.1 ∧ R entry flag) entries flags) :
    entries.map Prod.fst = flags.map Prod.fst := by
  induction h with
  | nil => rfl
  | cons hkey _ ih => rw [List.map_cons, List.map_cons, hkey.1, ih]

section Flags

variable {check : Value → Checked Bool} {denotes : Value → Bool → Prop}
  (hcheck : ∀ v, Decoded v → ∀ b, check v = .good b ↔ denotes v b)

include hcheck

theorem checkFlagEntries_eq_good {entries : List (String × Value)}
    (hentries : ∀ entry ∈ entries, Decoded entry.2) {flags : List (String × Bool)} :
    checkFlagEntries check (textKeys entries) = .good flags ↔
      List.Forall₂ (fun entry flag => entry.1 = flag.1 ∧ denotes entry.2 flag.2) entries flags := by
  induction entries generalizing flags with
  | nil =>
    rw [textKeys, List.map_nil, checkFlagEntries, List.forall₂_nil_left_iff, Checked.good.injEq]
    exact eq_comm
  | cons entry entries ih =>
    obtain ⟨key, v⟩ := entry
    obtain ⟨hv, hentries⟩ := List.forall_mem_cons.1 hentries
    rw [textKeys, List.map_cons, checkFlagEntries, Checked.both_eq_good,
      List.forall₂_cons_left_iff]
    simp only [Checked.both_eq_good, Checked.under_eq_good, readText, checkText_eq_good]
    constructor
    · rintro ⟨_, rest, ⟨name, b, hname, hb, rfl⟩, hrest, rfl⟩
      cases hname
      exact ⟨(key, b), rest, ⟨rfl, (hcheck v hv b).1 hb⟩, (ih hentries).1 hrest, rfl⟩
    · rintro ⟨⟨_, b⟩, rest, ⟨rfl, hb⟩, hrest, rfl⟩
      exact ⟨(key, b), rest, ⟨key, b, rfl, (hcheck v hv b).2 hb, rfl⟩, (ih hentries).2 hrest, rfl⟩

/-- The keys of an object are distinct, so its flags are read as they stand. -/
theorem checkFlags_eq_good {entries : List (String × Value)} (hentries : Decoded (.map entries))
    {flags : List (String × Bool)} :
    checkFlags check (textKeys entries) = .good flags ↔
      List.Forall₂ (fun entry flag => entry.1 = flag.1 ∧ denotes entry.2 flag.2) entries flags := by
  rw [checkFlags, Checked.map_eq_good]
  simp only [checkFlagEntries_eq_good hcheck hentries.of_mem_map]
  have hself : ∀ read, List.Forall₂ (fun entry flag => entry.1 = flag.1 ∧
      denotes entry.2 flag.2) entries read → ofEntries read = read := by
    intro read hread
    have hkeys := hentries.nodup_keys
    rw [keys_eq_of_forall₂ hread] at hkeys
    exact ofEntries_eq_self hkeys
  constructor
  · rintro ⟨read, hread, rfl⟩
    rw [hself read hread]
    exact hread
  · intro hflags
    exact ⟨flags, hflags, hself flags hflags⟩

end Flags

theorem checkDispositions_eq_good {v : Value} (hv : Decoded v)
    {o : Option (List (String × Bool))} :
    checkDispositions v = .good o ↔
      (v = .null ∧ o = none) ∨ ∃ flags, FlagsOf DenotesTruth v flags ∧ o = some flags := by
  cases hv with
  | map hkeys hentries =>
    simp only [checkDispositions, fields?_map, Checked.map_eq_good, FlagsOf,
      checkFlags_eq_good (fun _ hv _ => readTruth_eq_good hv) (.map hkeys hentries)]
    simp [eq_comm]
  | _ => simp [checkDispositions, Value.fields?, FlagsOf, eq_comm]

theorem checkOptionalFlags_eq_good {v : Value} (hv : Decoded v) {flags : List (String × Bool)} :
    checkOptionalFlags v = .good flags ↔
      (v = .null ∧ flags = []) ∨ FlagsOf (fun v b => v = .bool b) v flags := by
  cases hv with
  | map hkeys hentries =>
    simp only [checkOptionalFlags, checkOperationFlags, fields?_map, FlagsOf,
      checkFlags_eq_good (fun _ _ _ => checkTruth_eq_good) (.map hkeys hentries)]
    simp
  | _ => simp [checkOptionalFlags, checkOperationFlags, Value.fields?, FlagsOf, eq_comm]

/-! ## Counts and names -/

/-- A whole number that is not negative, as an integer or without a fraction. -/
inductive DenotesCount : Value → Int → Prop
  | int {n : Int} (hn : 0 ≤ n) : DenotesCount (.int n) n
  | float {x : Binary64} {n : Int} (hx : x.toInt? = some n) (hn : 0 ≤ n) :
      DenotesCount (.float x) n

theorem checkCodecName_eq_good {v : Value} {codec : String} :
    checkCodecName v = .good codec ↔ codec ≠ "" ∧ v = .text codec := by
  cases v with
  | text s =>
    simp only [checkCodecName, String.isEmpty_iff]
    by_cases hs : s = ""
    · rw [if_pos hs]
      constructor
      · intro h
        exact absurd h (Checked.fail_ne_good _ _)
      · rintro ⟨hne, heq⟩
        exact absurd (hs ▸ Value.text.inj heq).symm hne
    · rw [if_neg hs, Checked.good.injEq, Value.text.injEq]
      constructor
      · rintro rfl
        exact ⟨hs, rfl⟩
      · rintro ⟨-, rfl⟩
        rfl
  | _ => simp [checkCodecName]

theorem readCount_ofInt_eq_good {n : Int} {count : Option Int} :
    readCount.ofInt n = .good count ↔ 0 ≤ n ∧ count = if n = 0 then none else some n := by
  unfold readCount.ofInt
  split
  · rename_i hzero
    simp [hzero, eq_comm]
  · rename_i hne
    split
    · rename_i hneg
      simp [Int.not_le.2 hneg]
    · rename_i hneg
      simp [Int.not_lt.1 hneg, eq_comm]

/-- Zero leaves a count to the source. -/
theorem readCount_eq_good {v : Value} {count : Option Int} :
    readCount v = .good count ↔
      (v = .null ∧ count = none) ∨
        ∃ n, DenotesCount v n ∧ count = if n = 0 then none else some n := by
  constructor
  · intro h
    unfold readCount at h
    split at h
    · cases h
      exact .inl ⟨rfl, rfl⟩
    · obtain ⟨hn, hcount⟩ := readCount_ofInt_eq_good.1 h
      exact .inr ⟨_, .int hn, hcount⟩
    · split at h
      · rename_i n hx
        obtain ⟨hn, hcount⟩ := readCount_ofInt_eq_good.1 h
        exact .inr ⟨n, .float hx hn, hcount⟩
      · exact absurd h (Checked.fail_ne_good _ _)
    · exact absurd h (Checked.fail_ne_good _ _)
  · rintro (⟨rfl, rfl⟩ | ⟨n, hdenotes, hcount⟩)
    · rfl
    · cases hdenotes with
      | int hn => exact readCount_ofInt_eq_good.2 ⟨hn, hcount⟩
      | float hx hn =>
        simp only [readCount, hx]
        exact readCount_ofInt_eq_good.2 ⟨hn, hcount⟩

/-! ## Patterns -/

/-- What is read as a pattern is its normal form, a regular expression. -/
theorem checkPattern_eq_good {v : Value} {pattern : String} :
    checkPattern v = .good pattern ↔
      ∃ s, v = .text s ∧ pattern = normalizePattern s ∧
        ∃ r, Regex.compile pattern false = .ok r := by
  cases v with
  | text s =>
    rw [checkPattern]
    simp only [Value.text.injEq, exists_eq_left']
    cases hr : Regex.compile (normalizePattern s) false with
    | ok r =>
      constructor
      · intro h
        cases h
        exact ⟨rfl, r, hr⟩
      · rintro ⟨rfl, -⟩
        rfl
    | error refusal =>
      constructor
      · intro h
        exact absurd h (Checked.fail_ne_good _ _)
      · rintro ⟨rfl, r, hok⟩
        rw [hr] at hok
        cases hok
  | _ => simp [checkPattern]

end AudioPlan
