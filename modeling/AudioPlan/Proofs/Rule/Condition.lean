import AudioPlan.Proofs.Text.Blank
import AudioPlan.Proofs.Text.Decimal
import AudioPlan.Proofs.Text.Digit
import AudioPlan.Rule.Condition
import Mathlib.Data.Nat.Digits.Defs

/-!
# How conditions are written

`Spells` is the grammar of conditions as a relation, and `Condition.SpelledBy` what a text means by
it.  The reader accepts exactly that grammar (`partsOf?_eq_some_iff`, `ofText?_eq_some_iff`):
blanks, signs and digits have no character in common, so each part ends where the reader stops.  The
printed form is one spelling of a condition (`spells_text`), so different conditions are printed
differently (`text_injective`).  `ofText?_canonical` puts reading and printing together.
-/

namespace AudioPlan

/-- The signs that a comparison may be written with.  Equality needs none. -/
def Comparison.signs : Comparison → List (List Char)
  | .equal => [[], ['=']]
  | .less => [['<']]
  | .atMost => [['<', '=']]
  | .greater => [['>']]
  | .atLeast => [['>', '=']]

/-- Characters spell a comparison with a number, given by its digits: a sign and digits of any
script, with blanks before, between and behind them. -/
inductive Spells : List Char → Comparison → List Nat → Prop
  | mk {comparison : Comparison} {digits : List Nat} {before sign between run after : List Char}
      (hbefore : ∀ c ∈ before, Text.isBlank c = true) (hsign : sign ∈ comparison.signs)
      (hbetween : ∀ c ∈ between, Text.isBlank c = true) (hrun : run ≠ [])
      (hdigits : run.map Text.digitValue? = digits.map some)
      (hafter : ∀ c ∈ after, Text.isBlank c = true) :
      Spells (before ++ (sign ++ (between ++ (run ++ after)))) comparison digits

namespace Condition

/-- A text spells a condition whose bound has at most 4300 digits. -/
def SpelledBy (c : Condition) (s : String) : Prop :=
  ∃ digits, Spells s.toList c.comparison digits ∧ digits.length ≤ 4300 ∧
    c.bound = Text.ofDigits digits

/-! ## Where the parts end -/

/-- Whether a character can be part of a sign. -/
def isSign (c : Char) : Bool :=
  c == '<' || c == '>' || c == '='

theorem isBlank_of_isSign {c : Char} (hc : isSign c = true) : Text.isBlank c = false := by
  simp only [isSign, Bool.or_eq_true, beq_iff_eq] at hc
  rcases hc with (rfl | rfl) | rfl
  · decide
  · decide
  · decide

theorem isDigit_of_isSign {c : Char} (hc : isSign c = true) : Text.isDigit c = false := by
  simp only [isSign, Bool.or_eq_true, beq_iff_eq] at hc
  rcases hc with (rfl | rfl) | rfl
  · decide
  · decide
  · decide

theorem isSign_of_isBlank_or_isDigit {c : Char}
    (hc : Text.isBlank c = true ∨ Text.isDigit c = true) : isSign c = false := by
  rw [← Bool.not_eq_true]
  intro hsign
  rcases hc with hblank | hdigit
  · exact Bool.false_ne_true ((isBlank_of_isSign hsign).symm.trans hblank)
  · exact Bool.false_ne_true ((isDigit_of_isSign hsign).symm.trans hdigit)

theorem mem_signs_equal {sign : List Char} :
    sign ∈ Comparison.signs .equal ↔ sign = [] ∨ sign = ['='] := by
  simp [Comparison.signs]

/-- The reader takes a whole sign when no other sign follows it. -/
theorem readSign_append {comparison : Comparison} {sign : List Char}
    (hsign : sign ∈ comparison.signs) {c : Char} (hc : isSign c = false) (rest : List Char) :
    readSign (sign ++ c :: rest) = (comparison, c :: rest) := by
  simp only [isSign, Bool.or_eq_false_iff, beq_eq_false_iff_ne, ne_eq] at hc
  obtain ⟨⟨hless, hgreater⟩, hequal⟩ := hc
  cases comparison with
  | equal =>
    rcases mem_signs_equal.1 hsign with rfl | rfl
    · simp [readSign, hless, hgreater, hequal]
    · simp [readSign]
  | less =>
    rw [List.mem_singleton.1 hsign]
    simp [readSign, hequal]
  | atMost =>
    rw [List.mem_singleton.1 hsign]
    simp [readSign]
  | greater =>
    rw [List.mem_singleton.1 hsign]
    simp [readSign, hequal]
  | atLeast =>
    rw [List.mem_singleton.1 hsign]
    simp [readSign]

/-- What the reader takes is a sign of the comparison that it finds. -/
theorem exists_sign_of_readSign {cs rest : List Char} {comparison : Comparison}
    (h : readSign cs = (comparison, rest)) : ∃ sign ∈ comparison.signs, cs = sign ++ rest := by
  unfold readSign at h
  split at h <;> obtain ⟨rfl, rfl⟩ := Prod.mk.inj h
  · exact ⟨['<', '='], by decide, rfl⟩
  · exact ⟨['>', '='], by decide, rfl⟩
  · exact ⟨['<'], by decide, rfl⟩
  · exact ⟨['>'], by decide, rfl⟩
  · exact ⟨['='], by decide, rfl⟩
  · exact ⟨[], by decide, rfl⟩

theorem isSign_of_mem_signs {comparison : Comparison} {sign : List Char}
    (hsign : sign ∈ comparison.signs) : ∀ c ∈ sign, isSign c = true := by
  cases comparison with
  | equal =>
    rcases mem_signs_equal.1 hsign with rfl | rfl
    · simp
    · simp [isSign]
  | _ =>
    rw [List.mem_singleton.1 hsign]
    simp [isSign]

theorem isDigit_of_map_digitValue? {run : List Char} {digits : List Nat}
    (h : run.map Text.digitValue? = digits.map some) : ∀ c ∈ run, Text.isDigit c = true := by
  intro c hc
  have hvalue : Text.digitValue? c ∈ digits.map some := by
    rw [← h]
    exact List.mem_map_of_mem hc
  obtain ⟨d, -, hd⟩ := List.mem_map.1 hvalue
  exact Text.isDigit_of_digitValue? hd.symm

theorem filterMap_digitValue? {run : List Char} {digits : List Nat}
    (h : run.map Text.digitValue? = digits.map some) :
    run.filterMap Text.digitValue? = digits := by
  have hid : (run.map Text.digitValue?).filterMap id = (digits.map some).filterMap id := by rw [h]
  rw [List.filterMap_map, List.filterMap_map] at hid
  simpa using hid

theorem map_digitValue? {run : List Char} (hrun : ∀ c ∈ run, Text.isDigit c = true) :
    run.map Text.digitValue? = (run.filterMap Text.digitValue?).map some := by
  induction run with
  | nil => rfl
  | cons c run ih =>
    obtain ⟨hc, hrun⟩ := List.forall_mem_cons.1 hrun
    obtain ⟨d, hd⟩ := Option.isSome_iff_exists.1 hc
    rw [List.map_cons, List.filterMap_cons_some hd, List.map_cons, ih hrun, hd]

/-! ## The reader and the grammar -/

/-- What is taken from the characters once the sign and the digits have been found. -/
theorem partsOf?_of_spans {cs rest run after : List Char} {comparison : Comparison}
    {digits : List Nat} (hsign : readSign (Text.trimStart cs) = (comparison, rest))
    (hspan : Text.trimStart rest = run ++ after) (hrun : run ≠ [])
    (hdigits : run.map Text.digitValue? = digits.map some)
    (hafter : ∀ c ∈ after, Text.isBlank c = true) :
    partsOf? cs = some (comparison, digits) := by
  have hall := isDigit_of_map_digitValue? hdigits
  have hstop : ∀ c ∈ after, ¬ Text.isDigit c = true := by
    intro c hc
    rw [Text.isDigit_of_isBlank (hafter c hc)]
    exact Bool.false_ne_true
  have htake : (run ++ after).takeWhile Text.isDigit = run := by
    rw [List.takeWhile_append_of_pos hall]
    cases after with
    | nil => simp
    | cons c after => rw [List.takeWhile_cons_of_neg (hstop c List.mem_cons_self), List.append_nil]
  have hdrop : (run ++ after).dropWhile Text.isDigit = after := by
    rw [List.dropWhile_append_of_pos hall]
    cases after with
    | nil => simp
    | cons c after => rw [List.dropWhile_cons_of_neg (hstop c List.mem_cons_self)]
  have hne : digits ≠ [] := by
    rintro rfl
    exact hrun (List.map_eq_nil_iff.1 hdigits)
  unfold partsOf?
  simp only [hsign, hspan, htake, hdrop, filterMap_digitValue? hdigits]
  rw [if_neg]
  simpa [hne] using hafter

theorem spells_of_partsOf? {cs : List Char} {comparison : Comparison} {digits : List Nat}
    (h : partsOf? cs = some (comparison, digits)) : Spells cs comparison digits := by
  cases hread : readSign (Text.trimStart cs) with
  | mk found rest =>
    unfold partsOf? at h
    simp only [hread] at h
    split at h
    · cases h
    · rename_i hshape
      obtain ⟨rfl, hdigits⟩ := Prod.mk.inj (Option.some.inj h)
      obtain ⟨sign, hsign, heq⟩ := exists_sign_of_readSign hread
      rw [Bool.or_eq_true, not_or, List.isEmpty_iff, Bool.not_eq_true, Bool.not_eq_false']
        at hshape
      have hspan : (Text.trimStart rest).takeWhile Text.isDigit ++
          (Text.trimStart rest).dropWhile Text.isDigit = Text.trimStart rest :=
        List.takeWhile_append_dropWhile
      have hall := List.all_eq_true.1 (List.all_takeWhile (p := Text.isDigit)
        (l := Text.trimStart rest))
      have hcs : cs = cs.takeWhile Text.isBlank ++ (sign ++ (rest.takeWhile Text.isBlank ++
          ((Text.trimStart rest).takeWhile Text.isDigit ++
            (Text.trimStart rest).dropWhile Text.isDigit))) := by
        rw [hspan, Text.trimStart, List.takeWhile_append_dropWhile, ← heq, Text.trimStart,
          List.takeWhile_append_dropWhile]
      rw [hcs]
      refine .mk (List.all_eq_true.1 List.all_takeWhile) hsign
        (List.all_eq_true.1 List.all_takeWhile) ?_ ?_ (List.all_eq_true.1 hshape.2)
      · intro hnil
        rw [hnil] at hshape
        exact hshape.1 rfl
      · rw [map_digitValue? hall, hdigits]

theorem partsOf?_of_spells {cs : List Char} {comparison : Comparison} {digits : List Nat}
    (h : Spells cs comparison digits) : partsOf? cs = some (comparison, digits) := by
  cases h with
  | @mk _ _ before sign between run after hbefore hsign hbetween hrun hdigits hafter =>
    have hall := isDigit_of_map_digitValue? hdigits
    have hspan : ∀ blanks, (∀ c ∈ blanks, Text.isBlank c = true) →
        Text.trimStart (blanks ++ (run ++ after)) = run ++ after := fun blanks hblanks =>
      Text.trimStart_append hrun (fun c hc => Text.isBlank_of_isDigit (hall c hc)) hblanks after
    by_cases hnil : sign = []
    · -- Without a sign the blanks on both sides of it are one stretch.
      subst hnil
      have hblanks : ∀ c ∈ before ++ between, Text.isBlank c = true := fun c hc =>
        (List.mem_append.1 hc).elim (hbefore c) (hbetween c)
      have hfront : Text.trimStart (before ++ ([] ++ (between ++ (run ++ after)))) =
          run ++ after := by
        rw [List.nil_append, ← List.append_assoc]
        exact hspan _ hblanks
      obtain ⟨d, ds, rfl⟩ := List.exists_cons_of_ne_nil hrun
      have hd := isSign_of_isBlank_or_isDigit (.inr (hall d List.mem_cons_self))
      refine partsOf?_of_spans ?_ (hspan [] (by simp)) hrun hdigits hafter
      rw [hfront]
      exact readSign_append hsign hd _
    · have hsigns := isSign_of_mem_signs hsign
      have hfront : Text.trimStart (before ++ (sign ++ (between ++ (run ++ after)))) =
          sign ++ (between ++ (run ++ after)) :=
        Text.trimStart_append hnil (fun c hc => isBlank_of_isSign (hsigns c hc)) hbefore _
      have hbehind : ∃ c tail, between ++ (run ++ after) = c :: tail ∧ isSign c = false := by
        cases between with
        | nil =>
          obtain ⟨d, ds, rfl⟩ := List.exists_cons_of_ne_nil hrun
          exact ⟨d, _, rfl, isSign_of_isBlank_or_isDigit (.inr (hall d List.mem_cons_self))⟩
        | cons b between =>
          exact ⟨b, _, rfl, isSign_of_isBlank_or_isDigit (.inl (hbetween b List.mem_cons_self))⟩
      obtain ⟨c, tail, htail, hc⟩ := hbehind
      refine partsOf?_of_spans ?_ (hspan between hbetween) hrun hdigits hafter
      rw [hfront, htail]
      exact readSign_append hsign hc tail

/-- The reader takes the characters apart as the grammar does. -/
theorem partsOf?_eq_some_iff {cs : List Char} {comparison : Comparison} {digits : List Nat} :
    partsOf? cs = some (comparison, digits) ↔ Spells cs comparison digits :=
  ⟨spells_of_partsOf?, partsOf?_of_spells⟩

/-- A text is read as a condition exactly when it spells that condition. -/
theorem ofText?_eq_some_iff {s : String} {c : Condition} :
    ofText? s = some c ↔ c.SpelledBy s := by
  rw [ofText?, ofChars?]
  constructor
  · intro h
    cases hparts : partsOf? s.toList with
    | none => simp [hparts] at h
    | some parts =>
      obtain ⟨comparison, digits⟩ := parts
      rw [hparts] at h
      obtain ⟨bound, hbound, rfl⟩ := Option.map_eq_some_iff.1 h
      obtain ⟨hlimit, rfl⟩ := Text.ofDigits?_eq_some_iff.1 hbound
      exact ⟨digits, partsOf?_eq_some_iff.1 hparts, hlimit, rfl⟩
  · rintro ⟨digits, hspells, hlimit, hbound⟩
    rw [partsOf?_eq_some_iff.2 hspells]
    exact Option.map_eq_some_iff.2
      ⟨c.bound, Text.ofDigits?_eq_some_iff.2 ⟨hlimit, hbound.symm⟩, rfl⟩

/-- A text spells one condition at most. -/
theorem SpelledBy.unique {c d : Condition} {s : String} (hc : c.SpelledBy s) (hd : d.SpelledBy s) :
    c = d := by
  have hread := ofText?_eq_some_iff.2 hc
  rw [ofText?_eq_some_iff.2 hd] at hread
  exact (Option.some.inj hread).symm

theorem digits_lt_of_spells {cs : List Char} {comparison : Comparison} {digits : List Nat}
    (h : Spells cs comparison digits) : ∀ d ∈ digits, d < 10 := by
  cases h with
  | @mk _ _ _ _ _ run _ _ _ _ _ hdigits _ =>
    intro d hd
    have hmem : some d ∈ run.map Text.digitValue? := by
      rw [hdigits]
      exact List.mem_map_of_mem hd
    obtain ⟨c, -, hc⟩ := List.mem_map.1 hmem
    exact Text.digitValue?_lt hc

/-- A bound that is spelled in a text is not too long. -/
theorem SpelledBy.bound_lt {c : Condition} {s : String} (h : c.SpelledBy s) :
    c.bound < 10 ^ Text.digitLimit := by
  obtain ⟨digits, hspells, hlimit, hbound⟩ := h
  rw [hbound]
  exact Nat.lt_of_lt_of_le (Text.ofDigits_lt_pow (digits_lt_of_spells hspells))
    (Nat.pow_le_pow_right (by decide) hlimit)

/-! ## The printed form -/

theorem sign_mem_signs (comparison : Comparison) : comparison.sign.toList ∈ comparison.signs := by
  cases comparison <;> decide

/-- The printed form spells the comparison and the decimal digits of the bound. -/
theorem spells_text (c : Condition) :
    Spells c.text.toList c.comparison ((Nat.toDigits 10 c.bound).map Text.plainDigit) := by
  obtain ⟨comparison, bound⟩ := c
  have hdigits : (Nat.toDigits 10 bound).map Text.digitValue? =
      ((Nat.toDigits 10 bound).map Text.plainDigit).map some := by
    rw [List.map_map]
    exact List.map_congr_left fun c hc =>
      Text.digitValue?_of_isPlainDigit (Text.isPlainDigit_of_mem_toDigits hc)
  have hsigned : ∀ sign ∈ comparison.signs, Spells (sign ++ Nat.toDigits 10 bound) comparison
      ((Nat.toDigits 10 bound).map Text.plainDigit) := by
    intro sign hsign
    have hblanks : ∀ c ∈ ([] : List Char), Text.isBlank c = true := by simp
    have h := Spells.mk hblanks hsign hblanks Nat.toDigits_ne_nil hdigits hblanks
    simpa using h
  have hbound : (toString bound).toList = Nat.toDigits 10 bound := Text.toList_toString_ofNat bound
  cases comparison with
  | equal =>
    rw [text, hbound]
    exact hsigned [] (by decide)
  | _ =>
    rw [text, String.toList_append, hbound]
    exact hsigned _ (sign_mem_signs _)

/-- A condition whose bound is not too long is read back from its printed form. -/
theorem ofText?_text {c : Condition} (hbound : c.bound < 10 ^ Text.digitLimit) :
    ofText? c.text = some c := by
  have hlimit : (Nat.toDigits 10 c.bound).length ≤ Text.digitLimit :=
    (Nat.length_toDigits_le_iff (by decide) (by decide)).2 hbound
  rw [← List.length_map (f := Text.plainDigit)] at hlimit
  exact ofText?_eq_some_iff.2
    ⟨_, c.spells_text, hlimit, (Text.ofPlainDigits_toDigits c.bound).symm⟩

/-- Different conditions are printed differently, however large their bounds are. -/
theorem text_injective : Function.Injective text := by
  intro c d heq
  have hc := partsOf?_eq_some_iff.2 c.spells_text
  have hd := partsOf?_eq_some_iff.2 d.spells_text
  rw [heq] at hc
  obtain ⟨hcomparison, hdigits⟩ := Prod.mk.inj (Option.some.inj (hc.symm.trans hd))
  have hbound := congrArg Text.ofDigits hdigits
  have hread : ∀ n, Text.ofDigits ((Nat.toDigits 10 n).map Text.plainDigit) = n :=
    Text.ofPlainDigits_toDigits
  rw [hread, hread] at hbound
  obtain ⟨comparison, bound⟩ := c
  cases hcomparison
  cases hbound
  rfl

/-- The printed form is read back exactly if the bound has few enough digits. -/
theorem ofText?_text_iff (c : Condition) :
    ofText? c.text = some c ↔ (Nat.toDigits 10 c.bound).length ≤ Text.digitLimit := by
  rw [Nat.length_toDigits_le_iff (by decide) (by decide)]
  exact ⟨fun h => (ofText?_eq_some_iff.1 h).bound_lt, ofText?_text⟩

/-- The digits of a text that is spelled as a number denote it by their places. -/
theorem ofDigits_eq (digits : List Nat) :
    Text.ofDigits digits = Nat.ofDigits 10 digits.reverse := by
  rw [Nat.ofDigits_eq_foldr, List.foldr_reverse, Text.ofDigits]
  congr 1
  funext n d
  exact Nat.add_comm _ _

/-- Texts are read as conditions by their grammar, and conditions are printed in one of their
spellings.  A text is read exactly if it is spelled by the grammar with at most 4300 digits, as the
comparison of its sign and the number that the digits denote.  What is printed for a condition
spells it, however large its number is, and is read back as the condition if the number has at most
4300 digits.  Two texts are read as the same condition exactly if what is printed for them is the
same. -/
theorem ofText?_canonical (s t : String) (c : Condition) :
    (ofText? s = some c ↔ ∃ digits, Spells s.toList c.comparison digits ∧ digits.length ≤ 4300 ∧
      c.bound = Nat.ofDigits 10 digits.reverse) ∧
    ((ofText? s).isSome = true ↔
      ∃ comparison digits, Spells s.toList comparison digits ∧ digits.length ≤ 4300) ∧
    (∃ digits, Spells c.text.toList c.comparison digits ∧
      c.bound = Nat.ofDigits 10 digits.reverse) ∧
    (ofText? c.text = some c ↔ (Nat.toDigits 10 c.bound).length ≤ 4300) ∧
    ((∃ d, ofText? s = some d ∧ ofText? t = some d) ↔
      ∃ d e, ofText? s = some d ∧ ofText? t = some e ∧ d.text = e.text) := by
  refine ⟨?_, ?_, ?_, ofText?_text_iff c, ?_⟩
  · rw [ofText?_eq_some_iff]
    simp only [SpelledBy, ofDigits_eq]
  · rw [Option.isSome_iff_exists]
    constructor
    · rintro ⟨d, hd⟩
      obtain ⟨digits, hspells, hlimit, -⟩ := ofText?_eq_some_iff.1 hd
      exact ⟨d.comparison, digits, hspells, hlimit⟩
    · rintro ⟨comparison, digits, hspells, hlimit⟩
      exact ⟨⟨comparison, Text.ofDigits digits⟩,
        ofText?_eq_some_iff.2 ⟨digits, hspells, hlimit, rfl⟩⟩
  · refine ⟨_, c.spells_text, ?_⟩
    rw [← ofDigits_eq]
    exact (Text.ofPlainDigits_toDigits c.bound).symm
  · constructor
    · rintro ⟨d, hs, ht⟩
      exact ⟨d, d, hs, ht, rfl⟩
    · rintro ⟨d, e, hs, ht, htext⟩
      exact ⟨d, hs, text_injective htext ▸ ht⟩

-- Digits of another script behind a wide blank, and a line end behind them.
example : ofText? " >=\u2003\u0661\u0662\n" = some ⟨.atLeast, 12⟩ := by decide +kernel
example : ofText? "> =12" = none := by decide +kernel

end Condition

end AudioPlan
