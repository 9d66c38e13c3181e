import AudioPlan.Text.Number

/-!
# Numbers as text

The decimal digits of a natural number are plain digits, denote the number again, and have no zero
in front unless they are the number zero.  An integer is written as these digits behind its sign.
With a fixed number of digits each digit is written on its own (`inBase_succ`).
-/

namespace AudioPlan.Text

theorem isPlainDigit_eq_isDigit (c : Char) : isPlainDigit c = c.isDigit := by
  rw [Bool.eq_iff_iff]
  simp only [isPlainDigit, Char.isDigit, Bool.and_eq_true, decide_eq_true_eq]
  rfl

theorem isPlainDigit_of_mem_toDigits {n : Nat} {c : Char} (hc : c ∈ Nat.toDigits 10 n) :
    isPlainDigit c = true := by
  rw [isPlainDigit_eq_isDigit]
  exact Nat.isDigit_of_mem_toDigits (by decide) (by decide) hc

theorem exists_toDigits_eq_cons (n : Nat) :
    ∃ d ds, Nat.toDigits 10 n = d :: ds ∧ isPlainDigit d = true := by
  obtain ⟨d, ds, heq⟩ := List.exists_cons_of_ne_nil (Nat.toDigits_ne_nil (b := 10) (n := n))
  refine ⟨d, ds, heq, isPlainDigit_of_mem_toDigits (n := n) ?_⟩
  rw [heq]
  exact List.mem_cons_self

/-- The digits of a number denote it. -/
theorem ofPlainDigits_toDigits (n : Nat) : ofPlainDigits (Nat.toDigits 10 n) = n := by
  rw [ofPlainDigits, ofDigits, List.foldl_map]
  have hread := Nat.ofDigitChars_ten_toDigits (n := n)
  rw [Nat.ofDigitChars_eq_foldl] at hread
  exact hread

/-- Only zero is written with a zero in front. -/
theorem head?_toDigits_ne_zero {n : Nat} (hn : n ≠ 0) :
    (Nat.toDigits 10 n).head? ≠ some '0' := by
  induction n using Nat.strongRecOn with
  | ind n ih =>
    by_cases hlt : n < 10
    · rw [Nat.toDigits_of_lt_base hlt]
      simpa using hn
    · rw [Nat.toDigits_of_base_le (by decide) (by omega),
        List.head?_append, Option.or_of_isSome (by simp [Nat.toDigits_ne_nil])]
      exact ih (n / 10) (by omega) (by omega)

theorem toList_toString_ofNat (n : Nat) : (toString (n : Int)).toList = Nat.toDigits 10 n :=
  Nat.toList_repr

theorem toList_toString_negSucc (n : Nat) :
    (toString (Int.negSucc n)).toList = '-' :: Nat.toDigits 10 (n + 1) := by
  rw [Int.toString_eq_repr, Int.repr]
  simp

/-- Behind the first digit, each further one stands for a remainder. -/
theorem inBase_succ {base width : Nat} (hbase : 1 < base) (hwidth : 0 < width) (n : Nat) :
    inBase base (width + 1) n = inBase base width (n / base) ++ [Nat.digitChar (n % base)] := by
  unfold inBase
  by_cases hn : n < base
  · obtain ⟨width, rfl⟩ := Nat.exists_eq_add_of_lt hwidth
    have hzero : Nat.toDigits base 0 = ['0'] := Nat.toDigits_of_lt_base (by omega)
    rw [Nat.toDigits_of_lt_base hn, Nat.div_eq_of_lt hn, Nat.mod_eq_of_lt hn, hzero]
    simp [List.replicate_succ']
  · rw [Nat.toDigits_of_base_le hbase (by omega)]
    simp only [List.length_append, List.length_singleton, Nat.add_sub_add_right,
      List.append_assoc]

end AudioPlan.Text
