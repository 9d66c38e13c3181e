import AudioPlan.Binary64.Basic
import Mathlib.Tactic.Ring

/-!
# Quotients beyond the range

A quotient of natural numbers is rounded to an infinity exactly from `2 ^ 1024 - 2 ^ 970` on, which
is half a unit below the power of two that would be the next number (`ofRatio_eq_infinity_iff`).

* `divideNearest_eq_iff` says when rounding goes up to an even number;
* `exponentOf` is the exponent that is chosen for a quotient, `lt_of_exponentOf` and
  `le_of_exponentOf` say between which powers of two the quotient then is.
-/

namespace AudioPlan.Binary64

/-- The least number that is rounded to an infinity. -/
def overflowBound : Nat := 2 ^ 1024 - 2 ^ 970

/-! ## Rounding -/

theorem divideNearest_le {num den : Nat} (hden : 0 < den) {m : Nat} (h : num < m * den) :
    divideNearest num den ≤ m := by
  have hquotient : num / den < m := (Nat.div_lt_iff_lt_mul hden).2 h
  have hparity : num / den % 2 < 2 := Nat.mod_lt _ (by decide)
  unfold divideNearest
  dsimp only
  split
  · omega
  · split <;> omega

/-- A quotient below an even number is rounded to it from half a unit below on. -/
theorem divideNearest_eq_iff {num den : Nat} (hden : 0 < den) {m : Nat} (heven : m % 2 = 0)
    (h : num < m * den) : divideNearest num den = m ↔ (2 * m - 1) * den ≤ 2 * num := by
  have hquotient : num / den < m := (Nat.div_lt_iff_lt_mul hden).2 h
  have hsplit : den * (num / den) + num % den = num := Nat.div_add_mod num den
  have hmod : num % den < den := Nat.mod_lt num hden
  rcases Nat.lt_or_ge (num / den + 1) m with hfar | hnear
  · have hround : divideNearest num den < m := by
      refine Nat.lt_of_le_of_lt (divideNearest_le hden (m := num / den + 1) ?_) hfar
      rw [Nat.mul_comm, Nat.mul_add_one]
      omega
    have hhalf : 2 * (den * (num / den) + den) ≤ (2 * m - 1) * den := by
      have hle : 2 * (num / den + 1) ≤ 2 * m - 1 := by omega
      calc 2 * (den * (num / den) + den) = 2 * (num / den + 1) * den := by ring
        _ ≤ (2 * m - 1) * den := Nat.mul_le_mul_right den hle
    exact iff_of_false hround.ne (by omega)
  · have hm : m = num / den + 1 := by omega
    have hhalf : (2 * m - 1) * den = 2 * (den * (num / den)) + den := by
      rw [hm, show 2 * (num / den + 1) - 1 = 2 * (num / den) + 1 by omega]
      ring
    rw [hhalf]
    unfold divideNearest
    dsimp only
    split
    · omega
    · split <;> omega

/-! ## Exponents -/

section Exponents

variable {num den : Nat}

theorem scaled_eq (num den : Nat) (e : Int) :
    scaled num den e = (num * 2 ^ (-e).toNat, den * 2 ^ e.toNat) := by
  unfold scaled
  split
  · rw [Nat.pow_eq, show e.natAbs = (-e).toNat by omega, show e.toNat = 0 by omega, Nat.pow_zero,
      Nat.mul_one]
  · rw [Nat.pow_eq, show e.natAbs = e.toNat by omega, show (-e).toNat = 0 by omega, Nat.pow_zero,
      Nat.mul_one]

/-- One more in the exponent doubles the divisor, or halves the dividend. -/
theorem scaled_succ (num den : Nat) (e : Int) :
    ((scaled num den (e + 1)).1 = (scaled num den e).1 ∧
      (scaled num den (e + 1)).2 = 2 * (scaled num den e).2) ∨
    ((scaled num den e).1 = 2 * (scaled num den (e + 1)).1 ∧
      (scaled num den (e + 1)).2 = (scaled num den e).2) := by
  simp only [scaled_eq]
  rcases Int.lt_or_le e 0 with hneg | hpos
  · right
    rw [show (-e).toNat = (-(e + 1)).toNat + 1 by omega, show (e + 1).toNat = e.toNat by omega,
      Nat.pow_succ]
    exact ⟨by ring, rfl⟩
  · left
    rw [show (-(e + 1)).toNat = (-e).toNat by omega, show (e + 1).toNat = e.toNat + 1 by omega,
      Nat.pow_succ]
    exact ⟨rfl, by ring⟩

/-- The exponent that is tried first. -/
def guessOf (num den : Nat) : Int :=
  max leastExponent ((num.log2 : Int) - den.log2 - 53)

/-- The exponent of the number nearest to a quotient, before rounding. -/
def exponentOf (num den : Nat) : Int :=
  if (scaled num den (guessOf num den)).1 / (scaled num den (guessOf num den)).2 < mantissaBound
  then guessOf num den else guessOf num den + 1

theorem ofRatio_eq_ofRounded {negative : Bool} (hnum : num ≠ 0) :
    ofRatio negative num den = ofRounded negative
      (divideNearest (scaled num den (exponentOf num den)).1
        (scaled num den (exponentOf num den)).2) (exponentOf num den) := by
  rw [ofRatio, if_neg hnum]
  rfl

theorem lt_of_guessOf (num : Nat) (hden : den ≠ 0) :
    (scaled num den (guessOf num den)).1 <
      2 * mantissaBound * (scaled num den (guessOf num den)).2 := by
  have hguess : (num.log2 : Int) - den.log2 - 53 ≤ guessOf num den := Int.le_max_right _ _
  rw [scaled_eq]
  generalize guessOf num den = g at hguess
  calc num * 2 ^ (-g).toNat < 2 ^ (num.log2 + 1) * 2 ^ (-g).toNat :=
        Nat.mul_lt_mul_of_pos_right Nat.lt_log2_self (Nat.two_pow_pos _)
    _ = 2 ^ (num.log2 + 1 + (-g).toNat) := (Nat.pow_add 2 _ _).symm
    _ ≤ 2 ^ (54 + den.log2 + g.toNat) := Nat.pow_le_pow_right (by decide) (by omega)
    _ = 2 * mantissaBound * (2 ^ den.log2 * 2 ^ g.toNat) := by
      rw [Nat.pow_add, Nat.pow_add, Nat.mul_assoc, mantissaBound]
    _ ≤ 2 * mantissaBound * (den * 2 ^ g.toNat) :=
      Nat.mul_le_mul_left _ (Nat.mul_le_mul_right _ (Nat.log2_self_le hden))

theorem le_of_guessOf (hnum : num ≠ 0) (hguess : leastExponent < guessOf num den) :
    mantissaBound * (scaled num den (guessOf num den)).2 ≤
      2 * (scaled num den (guessOf num den)).1 := by
  have hguess : guessOf num den = (num.log2 : Int) - den.log2 - 53 := by
    unfold guessOf at hguess ⊢
    omega
  rw [scaled_eq]
  generalize guessOf num den = g at hguess
  calc mantissaBound * (den * 2 ^ g.toNat)
      ≤ mantissaBound * (2 ^ (den.log2 + 1) * 2 ^ g.toNat) :=
        Nat.mul_le_mul_left _ (Nat.mul_le_mul_right _ (Nat.le_of_lt Nat.lt_log2_self))
    _ = 2 ^ (53 + (den.log2 + 1) + g.toNat) := by
      rw [Nat.pow_add _ _ g.toNat, Nat.pow_add _ 53, Nat.mul_assoc, mantissaBound]
    _ ≤ 2 ^ (1 + num.log2 + (-g).toNat) := Nat.pow_le_pow_right (by decide) (by omega)
    _ = 2 * (2 ^ num.log2 * 2 ^ (-g).toNat) := by
      rw [Nat.pow_add, Nat.pow_add, Nat.pow_one, Nat.mul_assoc]
    _ ≤ 2 * (num * 2 ^ (-g).toNat) :=
      Nat.mul_le_mul_left _ (Nat.mul_le_mul_right _ (Nat.log2_self_le hnum))

theorem scaled_den_pos (hden : den ≠ 0) (e : Int) : 0 < (scaled num den e).2 := by
  rw [scaled_eq]
  exact Nat.mul_pos (Nat.pos_of_ne_zero hden) (Nat.two_pow_pos _)

/-- The quotient is below the bound of mantissas. -/
theorem lt_of_exponentOf (num : Nat) (hden : den ≠ 0) :
    (scaled num den (exponentOf num den)).1 <
      mantissaBound * (scaled num den (exponentOf num den)).2 := by
  unfold exponentOf
  split
  · rename_i hlt
    exact (Nat.div_lt_iff_lt_mul (scaled_den_pos hden _)).1 hlt
  · have hlt := lt_of_guessOf num hden
    rcases scaled_succ num den (guessOf num den) with ⟨hdividend, hdivisor⟩ | ⟨hdividend, hdivisor⟩
    · rw [hdividend, hdivisor, ← Nat.mul_assoc, Nat.mul_comm mantissaBound]
      exact hlt
    · rw [hdividend, Nat.mul_assoc] at hlt
      rw [hdivisor]
      exact Nat.lt_of_mul_lt_mul_left hlt

/-- Unless the exponent is the least, the quotient reaches half the bound of mantissas. -/
theorem le_of_exponentOf (hnum : num ≠ 0) (hden : den ≠ 0)
    (hleast : leastExponent < exponentOf num den) :
    mantissaBound * (scaled num den (exponentOf num den)).2 ≤
      2 * (scaled num den (exponentOf num den)).1 := by
  unfold exponentOf at hleast ⊢
  split
  · rename_i hlt
    rw [if_pos hlt] at hleast
    exact le_of_guessOf hnum hleast
  · rename_i hge
    have hge : mantissaBound * (scaled num den (guessOf num den)).2 ≤
        (scaled num den (guessOf num den)).1 :=
      (Nat.le_div_iff_mul_le (scaled_den_pos hden _)).1 (Nat.le_of_not_lt hge)
    rcases scaled_succ num den (guessOf num den) with ⟨hdividend, hdivisor⟩ | ⟨hdividend, hdivisor⟩
    · rw [hdividend, hdivisor, Nat.mul_left_comm]
      exact Nat.mul_le_mul_left 2 hge
    · rw [hdivisor, ← hdividend]
      exact hge

end Exponents

/-! ## Overflow -/

theorem ofRounded_eq_infinity_iff {negative : Bool} {mantissa : Nat} {e : Int} :
    ofRounded negative mantissa e = .infinity negative ↔
      greatestExponent < e ∨ (e = greatestExponent ∧ mantissa = mantissaBound) := by
  unfold ofRounded
  by_cases hcarried : mantissa = mantissaBound
  · by_cases he : greatestExponent < e + 1
    · simp only [hcarried, ↓reduceIte, he, true_iff, and_true]
      omega
    · simp only [hcarried, ↓reduceIte, he, reduceCtorEq, false_iff, and_true]
      omega
  · by_cases he : greatestExponent < e
    · simp [hcarried, he]
    · simp [hcarried, he]

theorem ofRounded_sign {negative s : Bool} {mantissa : Nat} {e : Int}
    (h : ofRounded negative mantissa e = .infinity s) : s = negative := by
  unfold ofRounded at h
  dsimp only at h
  generalize (if mantissa = mantissaBound then e + 1 else e) = exponent at h
  split at h
  · cases h
    rfl
  · cases h

theorem ofRatio_sign {negative s : Bool} {num den : Nat}
    (h : ofRatio negative num den = .infinity s) : s = negative := by
  by_cases hnum : num = 0
  · rw [ofRatio, if_pos hnum] at h
    cases h
  · rw [ofRatio_eq_ofRounded hnum] at h
    exact ofRounded_sign h

/-- A quotient is rounded to an infinity from the bound on. -/
theorem ofRatio_eq_infinity_iff {negative : Bool} {num den : Nat} (hden : den ≠ 0) :
    ofRatio negative num den = .infinity negative ↔ overflowBound * den ≤ num := by
  -- In units of half the last number, all that is compared is a multiple of `unit`.
  generalize hunit : den * 2 ^ greatestExponent.toNat = unit
  have hbound : overflowBound * den ≤ num ↔ (2 * mantissaBound - 1) * unit ≤ 2 * num := by
    have hdouble : 2 * overflowBound = (2 * mantissaBound - 1) * 2 ^ greatestExponent.toNat := by
      decide +kernel
    rw [← hunit, Nat.mul_comm den, ← Nat.mul_assoc, ← hdouble, Nat.mul_assoc]
    omega
  rw [hbound]
  have hdenPos := Nat.pos_of_ne_zero hden
  have hunitPos : 0 < unit := hunit ▸ Nat.mul_pos hdenPos (Nat.two_pow_pos _)
  by_cases hnum : num = 0
  · have hpos : 0 < (2 * mantissaBound - 1) * unit := Nat.mul_pos (by decide) hunitPos
    rw [hnum, ofRatio, if_pos rfl]
    exact iff_of_false (fun h => nomatch h) (by omega)
  · have hupper := lt_of_exponentOf num hden
    have hlower := le_of_exponentOf hnum hden
    rw [ofRatio_eq_ofRounded hnum, ofRounded_eq_infinity_iff]
    generalize exponentOf num den = e at hupper hlower ⊢
    rcases Int.lt_trichotomy e greatestExponent with hless | rfl | hgreater
    · have hsmall : 2 * num < (2 * mantissaBound - 1) * unit := by
        rw [scaled_eq] at hupper
        have he : e.toNat + 1 ≤ greatestExponent.toNat := by
          rw [greatestExponent] at hless ⊢
          omega
        have hsteps : 2 * (den * 2 ^ e.toNat) ≤ unit := by
          rw [← hunit, Nat.mul_left_comm, Nat.mul_comm 2, ← Nat.pow_succ]
          exact Nat.mul_le_mul_left den (Nat.pow_le_pow_right (by decide) he)
        calc 2 * num ≤ 2 * (num * 2 ^ (-e).toNat) :=
              Nat.mul_le_mul_left 2 (Nat.le_mul_of_pos_right num (Nat.two_pow_pos _))
          _ < 2 * (mantissaBound * (den * 2 ^ e.toNat)) :=
            Nat.mul_lt_mul_of_pos_left hupper (by decide)
          _ = mantissaBound * (2 * (den * 2 ^ e.toNat)) := Nat.mul_left_comm _ _ _
          _ ≤ mantissaBound * unit := Nat.mul_le_mul_left _ hsteps
          _ ≤ (2 * mantissaBound - 1) * unit := Nat.mul_le_mul_right unit (by decide)
      exact iff_of_false (by omega) (Nat.not_le.2 hsmall)
    · have hscaled : scaled num den greatestExponent = (num, unit) := by
        rw [scaled_eq, show (-greatestExponent).toNat = 0 by decide, Nat.pow_zero, Nat.mul_one,
          hunit]
      rw [hscaled] at hupper ⊢
      rw [divideNearest_eq_iff hunitPos (by decide) hupper]
      simp
    · have hlarge : (2 * mantissaBound - 1) * unit ≤ 2 * num := by
        have hreached := hlower (Int.lt_trans (by decide) hgreater)
        have he : greatestExponent.toNat + 1 ≤ e.toNat ∧ (-e).toNat = 0 := by
          rw [greatestExponent] at hgreater ⊢
          omega
        rw [scaled_eq, he.2, Nat.pow_zero, Nat.mul_one] at hreached
        have hsteps : 2 * unit ≤ den * 2 ^ e.toNat := by
          rw [← hunit, Nat.mul_left_comm, Nat.mul_comm 2, ← Nat.pow_succ]
          exact Nat.mul_le_mul_left den (Nat.pow_le_pow_right (by decide) he.1)
        calc (2 * mantissaBound - 1) * unit ≤ 2 * mantissaBound * unit :=
              Nat.mul_le_mul_right unit (Nat.sub_le _ _)
          _ = mantissaBound * (2 * unit) := by rw [Nat.mul_comm 2, Nat.mul_assoc]
          _ ≤ mantissaBound * (den * 2 ^ e.toNat) := Nat.mul_le_mul_left _ hsteps
          _ ≤ 2 * num := hreached
      exact iff_of_true (.inl hgreater) hlarge

end AudioPlan.Binary64
