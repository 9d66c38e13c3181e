import AudioPlan.Text.Blank
import AudioPlan.Text.Number
import Mathlib.Algebra.Group.Nat.Defs

/-!
# Digits of every script

A decimal digit stands for less than ten, so a number is bounded by the count of its digits
(`ofDigits_lt_pow`), of which there may not be too many (`ofDigits?_eq_some_iff`).  No blank is a
digit (`isDigit_of_isBlank`), and the plain digits stand for what they are
(`digitValue?_of_isPlainDigit`).
-/

namespace AudioPlan.Text

/-! ## Ranges -/

/-- Whether two classes have no range that touches one of the other. -/
def rangesApart (as bs : List (Nat × Nat)) : Bool :=
  as.all fun r => bs.all fun s => r.2 < s.1 || s.2 < r.1

theorem inRanges_of_rangesApart {as bs : List (Nat × Nat)} (hapart : rangesApart as bs = true)
    {n : Nat} (hn : inRanges as n = true) : inRanges bs n = false := by
  obtain ⟨r, hr⟩ := Option.isSome_iff_exists.1 hn
  obtain ⟨hmem, hlow, hhigh⟩ := findRange_bounds hr
  rw [inRanges, ← Bool.not_eq_true, Option.isSome_iff_exists]
  rintro ⟨s, hs⟩
  obtain ⟨hmem', hlow', hhigh'⟩ := findRange_bounds hs
  have hdisjoint := List.all_eq_true.1 (List.all_eq_true.1 hapart r hmem) s hmem'
  rw [Bool.or_eq_true, decide_eq_true_eq, decide_eq_true_eq] at hdisjoint
  omega

/-! ## Digits -/

theorem isDigit_eq_inRanges (c : Char) : isDigit c = inRanges digitRanges c.toNat :=
  Option.isSome_map

/-- No blank is a digit. -/
theorem isDigit_of_isBlank {c : Char} (hc : isBlank c = true) : isDigit c = false := by
  have hapart : rangesApart blankRanges digitRanges = true := by decide
  rw [isDigit_eq_inRanges]
  exact inRanges_of_rangesApart hapart hc

theorem isBlank_of_isDigit {c : Char} (hc : isDigit c = true) : isBlank c = false := by
  rw [← Bool.not_eq_true]
  intro hblank
  exact Bool.false_ne_true ((isDigit_of_isBlank hblank).symm.trans hc)

theorem isDigit_of_digitValue? {c : Char} {d : Nat} (hc : digitValue? c = some d) :
    isDigit c = true := by
  rw [isDigit, hc, Option.isSome_some]

theorem digitValue?_lt {c : Char} {d : Nat} (hc : digitValue? c = some d) : d < 10 := by
  obtain ⟨r, -, rfl⟩ := Option.map_eq_some_iff.1 hc
  omega

theorem digitValue?_of_isPlainDigit {c : Char} (hc : isPlainDigit c = true) :
    digitValue? c = some (plainDigit c) := by
  have hall : ∀ n, n < 0x3a → 0x30 ≤ n → findRange digitRanges n = some (0x30, 0x39) := by
    decide +kernel
  rw [isPlainDigit, Bool.and_eq_true, decide_eq_true_eq, decide_eq_true_eq] at hc
  have hlow : 0x30 ≤ c.toNat := hc.1
  have hhigh : c.toNat ≤ 0x39 := hc.2
  have hvalue : (c.toNat - 0x30) % 10 = plainDigit c := Nat.mod_eq_of_lt (by omega)
  rw [digitValue?, hall c.toNat (by omega) hlow, Option.map_some, hvalue]

/-! ## Numbers -/

theorem foldl_digits_lt {digits : List Nat} (hdigits : ∀ d ∈ digits, d < 10) (n : Nat) :
    digits.foldl (fun n d => 10 * n + d) n < (n + 1) * 10 ^ digits.length := by
  induction digits generalizing n with
  | nil => simp
  | cons d digits ih =>
    obtain ⟨hd, hdigits⟩ := List.forall_mem_cons.1 hdigits
    have hstep := ih hdigits (10 * n + d)
    have hle : (10 * n + d + 1) * 10 ^ digits.length ≤ (n + 1) * 10 * 10 ^ digits.length :=
      Nat.mul_le_mul_right _ (by omega)
    rw [List.foldl_cons, List.length_cons, Nat.pow_succ', ← Nat.mul_assoc]
    exact Nat.lt_of_lt_of_le hstep hle

/-- A number is less than the power of ten that its digits count. -/
theorem ofDigits_lt_pow {digits : List Nat} (hdigits : ∀ d ∈ digits, d < 10) :
    ofDigits digits < 10 ^ digits.length := by
  have hlt := foldl_digits_lt hdigits 0
  rwa [Nat.zero_add, Nat.one_mul] at hlt

theorem ofDigits?_eq_some_iff {digits : List Nat} {n : Nat} :
    ofDigits? digits = some n ↔ digits.length ≤ digitLimit ∧ ofDigits digits = n := by
  rw [ofDigits?]
  split
  · rename_i hlong
    exact iff_of_false nofun fun h => Nat.not_lt.2 h.1 hlong
  · rename_i hshort
    rw [Option.some.injEq, and_iff_right (Nat.not_lt.1 hshort)]

end AudioPlan.Text
