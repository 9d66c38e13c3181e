import AudioPlan.Text.Case

/-!
# Lower case is final

Text in lower case is its own lower case (`lower_lower`).  No run of the table maps a letter to one
that a run maps again (`Run.avoids`), so each character of a lower case is its own lower case, and
none is the capital sigma, whose lower case hangs on its surroundings.
-/

namespace AudioPlan.Text

namespace Case

/-! ## Runs -/

/-- Whether the letters that a run maps to are none that another one covers: they lie on one side of
it, or it covers every second letter and they are the letters between. -/
def Run.avoids (r s : Run) : Bool :=
  let first := (r.first + r.shift).toNat
  let last := (r.last + r.shift).toNat
  Nat.blt s.last first || Nat.blt last s.first ||
    ((Nat.beq r.step 2 || Nat.beq r.first r.last) && Nat.beq s.step 2 &&
      Nat.beq ((first + s.first) % 2) 1)

theorem Run.not_covers_of_avoids {r s : Run} (havoids : r.avoids s = true)
    (hshift : 0 ≤ r.first + r.shift) {n : Nat} (hn : r.covers n = true) :
    s.covers (n + r.shift).toNat = false := by
  simp only [Run.avoids, Bool.or_eq_true, Bool.and_eq_true, Nat.blt_eq, Nat.beq_eq] at havoids
  simp only [Run.covers, Bool.and_eq_true, decide_eq_true_eq, beq_iff_eq] at hn
  obtain ⟨⟨hfirst, hlast⟩, hstep⟩ := hn
  rw [← Bool.not_eq_true]
  intro hs
  simp only [Run.covers, Bool.and_eq_true, decide_eq_true_eq, beq_iff_eq] at hs
  obtain ⟨⟨hfirst', hlast'⟩, hstep'⟩ := hs
  rcases havoids with (hbelow | habove) | ⟨⟨hsteps, htwo⟩, hodd⟩
  · omega
  · omega
  · -- The letters of the run are an even distance apart, so all of them lie between.
    have heven : (n - r.first) % 2 = 0 := by
      rcases hsteps with htwo | hone
      · rwa [htwo] at hstep
      · rw [show n - r.first = 0 by omega]
    rw [htwo] at hstep'
    omega

/-- The letter with a lower case of several characters, as a run of its own. -/
def dottedRun : Run := ⟨0x130, 0x130, 1, 0⟩

theorem lowerRuns_avoid : ∀ r ∈ lowerRuns, ∀ s ∈ dottedRun :: lowerRuns, r.avoids s = true := by
  have hall : lowerRuns.all (fun r => (dottedRun :: lowerRuns).all r.avoids) = true := by
    decide +kernel
  intro r hr
  exact List.all_eq_true.1 (List.all_eq_true.1 hall r hr)

theorem lowerRuns_shift : ∀ r ∈ lowerRuns, 0 ≤ r.first + r.shift := by
  have hall : lowerRuns.all (fun r => decide (0 ≤ r.first + r.shift)) = true := by decide +kernel
  intro r hr
  exact of_decide_eq_true (List.all_eq_true.1 hall r hr)

theorem shifted_of_not_covered {runs : List Run} {n : Nat}
    (hruns : ∀ r ∈ runs, r.covers n = false) : shifted runs n = n := by
  induction runs with
  | nil => rfl
  | cons r runs ih =>
    obtain ⟨hr, hruns⟩ := List.forall_mem_cons.1 hruns
    rw [shifted, hr, if_neg Bool.false_ne_true, ih hruns]

/-- A code point is mapped by a run that covers it, or kept. -/
theorem shifted_cases (runs : List Run) (n : Nat) :
    (∃ r ∈ runs, r.covers n = true ∧ shifted runs n = (n + r.shift).toNat) ∨
      ((∀ r ∈ runs, r.covers n = false) ∧ shifted runs n = n) := by
  by_cases hruns : ∀ r ∈ runs, r.covers n = false
  · exact .inr ⟨hruns, shifted_of_not_covered hruns⟩
  · left
    induction runs with
    | nil => simp at hruns
    | cons r runs ih =>
      by_cases hr : r.covers n = true
      · exact ⟨r, List.mem_cons_self, hr, by rw [shifted, if_pos hr]⟩
      · have hrest : ¬ ∀ s ∈ runs, s.covers n = false := by
          intro hrest
          exact hruns (List.forall_mem_cons.2 ⟨Bool.not_eq_true _ ▸ hr, hrest⟩)
        obtain ⟨s, hs, hcovers, hshifted⟩ := ih hrest
        exact ⟨s, List.mem_cons_of_mem r hs, hcovers, by rw [shifted, if_neg hr, hshifted]⟩

/-- What a letter is mapped to is not mapped again, by a run or to several characters. -/
theorem not_covers_shifted {n : Nat} (hn : dottedRun.covers n = false) :
    ∀ s ∈ dottedRun :: lowerRuns, s.covers (shifted lowerRuns n) = false := by
  intro s hs
  rcases shifted_cases lowerRuns n with ⟨r, hr, hcovers, hshifted⟩ | ⟨hnone, hshifted⟩
  · rw [hshifted]
    exact Run.not_covers_of_avoids (lowerRuns_avoid r hr s hs) (lowerRuns_shift r hr) hcovers
  · rw [hshifted]
    rcases List.mem_cons.1 hs with rfl | hs
    · exact hn
    · exact hnone s hs

/-! ## Characters -/

/-- A character that is its own lower case wherever it stands. -/
def IsLower (c : Char) : Prop :=
  lowerChar c = [c]

instance (c : Char) : Decidable (IsLower c) :=
  inferInstanceAs (Decidable (lowerChar c = [c]))

theorem IsLower.ne_capitalSigma {c : Char} (hc : IsLower c) : c ≠ capitalSigma := by
  rintro rfl
  exact absurd hc (by decide +kernel)

theorem lookup_lowerSeveral (n : Nat) :
    (n = 0x130 ∧ lowerSeveral.lookup n = some [0x69, 0x307]) ∨
      (dottedRun.covers n = false ∧ lowerSeveral.lookup n = none) := by
  by_cases hn : n = 0x130
  · exact .inl ⟨hn, by rw [hn]; decide⟩
  · refine .inr ⟨?_, ?_⟩
    · rw [← Bool.not_eq_true]
      simp only [Run.covers, Bool.and_eq_true, decide_eq_true_eq]
      rintro ⟨⟨hlow, hhigh⟩, -⟩
      exact hn (Nat.le_antisymm hhigh hlow)
    · simp [lowerSeveral, hn]

/-- Every character of a lower case is its own lower case. -/
theorem isLower_of_mem_lowerChar {c d : Char} (hd : d ∈ lowerChar c) : IsLower d := by
  rcases lookup_lowerSeveral c.toNat with ⟨-, hsome⟩ | ⟨hdotted, hnone⟩
  · simp only [lowerChar, mapped, hsome, List.map_cons, List.map_nil, List.mem_cons,
      List.not_mem_nil, or_false] at hd
    rcases hd with rfl | rfl
    · decide +kernel
    · decide +kernel
  · simp only [lowerChar, mapped, hnone, List.mem_singleton] at hd
    have hcovers := not_covers_shifted hdotted
    generalize shifted lowerRuns c.toNat = n at hd hcovers
    obtain ⟨hn, hruns⟩ := List.forall_mem_cons.1 hcovers
    rcases lookup_lowerSeveral n with ⟨rfl, -⟩ | ⟨-, hnone⟩
    · exact absurd hn (by decide)
    · by_cases hvalid : n.isValidChar
      · have htoNat : d.toNat = n := by rw [hd, Char.ofNat, dif_pos hvalid]; rfl
        rw [IsLower, lowerChar, mapped, htoNat, hnone, shifted_of_not_covered hruns, hd]
      · -- A number that is no code point counts as the null character.
        rw [hd, Char.ofNat, dif_neg hvalid]
        decide +kernel

theorem lowerChar_ne_nil (c : Char) : lowerChar c ≠ [] := by
  rcases lookup_lowerSeveral c.toNat with ⟨-, hsome⟩ | ⟨-, hnone⟩
  · simp [lowerChar, mapped, hsome]
  · simp [lowerChar, mapped, hnone]

/-! ## Texts -/

theorem isLower_smallSigma (before after : List Char) : IsLower (smallSigma before after) := by
  unfold smallSigma
  split
  · decide +kernel
  · decide +kernel

theorem isLower_of_mem_lowerFrom {before cs : List Char} :
    ∀ d ∈ lowerFrom before cs, IsLower d := by
  induction cs generalizing before with
  | nil => simp [lowerFrom]
  | cons c after ih =>
    intro d hd
    rw [lowerFrom, List.mem_append] at hd
    rcases hd with hd | hd
    · split at hd
      · rw [List.mem_singleton.1 hd]
        exact isLower_smallSigma before after
      · exact isLower_of_mem_lowerChar hd
    · exact ih d hd

theorem lowerFrom_of_isLower {before cs : List Char} (hcs : ∀ c ∈ cs, IsLower c) :
    lowerFrom before cs = cs := by
  induction cs generalizing before with
  | nil => rfl
  | cons c after ih =>
    obtain ⟨hc, hafter⟩ := List.forall_mem_cons.1 hcs
    rw [lowerFrom, if_neg hc.ne_capitalSigma, ih hafter, hc, List.singleton_append]

end Case

/-- Text in lower case is its own lower case. -/
theorem lower_lower (cs : List Char) : lower (lower cs) = lower cs :=
  Case.lowerFrom_of_isLower Case.isLower_of_mem_lowerFrom

theorem lowerText_lowerText (s : String) : lowerText (lowerText s) = lowerText s := by
  rw [lowerText, lowerText, String.toList_ofList, lower_lower]

/-- Only the empty text has an empty lower case. -/
theorem lower_ne_nil {cs : List Char} (hcs : cs ≠ []) : lower cs ≠ [] := by
  cases cs with
  | nil => exact absurd rfl hcs
  | cons c after =>
    rw [lower, Case.lowerFrom]
    refine List.append_ne_nil_of_left_ne_nil ?_ _
    split
    · exact List.cons_ne_nil _ _
    · exact Case.lowerChar_ne_nil c

theorem lowerText_ne_empty {s : String} (hs : s ≠ "") : lowerText s ≠ "" := by
  have hchars : s.toList ≠ [] := by simpa using hs
  intro hempty
  have hlower : lower s.toList = [] := by
    rw [← String.toList_ofList (l := lower s.toList)]
    exact congrArg String.toList hempty
  exact lower_ne_nil hchars hlower

end AudioPlan.Text
