import AudioPlan.Value.Basic

/-!
# Floating-point numbers that are integers

A floating-point number equals an integer exactly when it has no fraction and its value is that
integer (`compareInt?_eq_eq_iff`).
-/

namespace AudioPlan

namespace Binary64

theorem ratio_den_pos (mantissa : Nat) (e : Int) : 0 < (ratio mantissa e).2 := by
  unfold ratio
  split
  · rw [Nat.pow_eq]
    exact Nat.two_pow_pos _
  · exact Nat.one_pos

/-- A signed quotient equals an integer exactly when the division leaves no remainder and gives
it. -/
theorem signed_eq_mul_iff (negative : Bool) (num : Nat) {den : Nat} (hden : 0 < den) (n : Int) :
    signed negative num = n * den ↔ num % den = 0 ∧ signed negative (num / den) = n := by
  have hsplit : ((num / den : Nat) : Int) * den + (num % den : Nat) = num := by
    exact_mod_cast Nat.div_add_mod' num den
  have hlt : num % den < den := Nat.mod_lt num hden
  have hne : (den : Int) ≠ 0 := by omega
  cases negative with
  | false =>
    simp only [signed, Bool.false_eq_true, ↓reduceIte]
    constructor
    · intro heq
      have hdvd : den ∣ num := Int.natCast_dvd_natCast.1 ⟨n, by rw [heq, Int.mul_comm]⟩
      refine ⟨Nat.mod_eq_zero_of_dvd hdvd, Int.eq_of_mul_eq_mul_right hne ?_⟩
      rw [Nat.mod_eq_zero_of_dvd hdvd] at hsplit
      omega
    · rintro ⟨hmod, rfl⟩
      rw [hmod] at hsplit
      omega
  | true =>
    simp only [signed, ↓reduceIte]
    constructor
    · intro heq
      have hdvd : den ∣ num := by
        refine Int.natCast_dvd_natCast.1 ⟨-n, ?_⟩
        rw [Int.mul_neg, Int.mul_comm, ← heq, Int.neg_neg]
      refine ⟨Nat.mod_eq_zero_of_dvd hdvd, Int.eq_of_mul_eq_mul_right hne ?_⟩
      rw [Nat.mod_eq_zero_of_dvd hdvd] at hsplit
      rw [Int.neg_mul]
      omega
    · rintro ⟨hmod, rfl⟩
      rw [hmod] at hsplit
      rw [Int.neg_mul]
      omega

/-- A number equals an integer exactly when that is its value. -/
theorem compareInt?_eq_eq_iff {x : Binary64} {n : Int} :
    x.compareInt? n = some .eq ↔ x.toInt? = some n := by
  cases x with
  | nan => simp [compareInt?, toInt?]
  | infinity negative => cases negative <;> simp [compareInt?, toInt?]
  | finite negative mantissa e =>
    have hiff := signed_eq_mul_iff negative (ratio mantissa e).1 (ratio_den_pos mantissa e) n
    simp only [compareInt?, toInt?, Option.some.injEq, Int.compare_eq_eq]
    rw [hiff]
    by_cases hmod : (ratio mantissa e).1 % (ratio mantissa e).2 = 0
    · simp [hmod]
    · simp [hmod]

end Binary64

/-- A value equals an integer exactly when it is a number with that value. -/
theorem Value.equalsInt_iff {v : Value} {n : Int} :
    v.equalsInt n = true ↔ (∃ b : Bool, v = .bool b ∧ (b.toNat : Int) = n) ∨ v = .int n ∨
      ∃ x, v = .float x ∧ x.toInt? = some n := by
  rw [equalsInt, beq_iff_eq]
  cases v with
  | bool b => simp [compareInt?]
  | int m => simp [compareInt?]
  | float x => simp [compareInt?, Binary64.compareInt?_eq_eq_iff]
  | _ => simp [compareInt?]

end AudioPlan
