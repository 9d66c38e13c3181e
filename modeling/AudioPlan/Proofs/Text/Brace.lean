import AudioPlan.Proofs.Text.Case
import AudioPlan.Proofs.Text.Decimal
import AudioPlan.Value.Basic

/-!
# Text without braces

Texts in which no brace occurs (`Unbraced`).  Letter case makes no brace out of another character
(`lowerText_unbraced`, `upperText_unbraced`), and numbers are written without one
(`Binary64.render_unbraced`, `Value.toText_unbraced`).
-/

namespace AudioPlan

namespace Text

/-- Characters that are no brace. -/
def Unbraced (cs : List Char) : Prop :=
  '\x7b' ∉ cs ∧ '\x7d' ∉ cs

instance (cs : List Char) : Decidable (Unbraced cs) :=
  inferInstanceAs (Decidable (_ ∧ _))

theorem Unbraced.append {cs ds : List Char} (hcs : Unbraced cs) (hds : Unbraced ds) :
    Unbraced (cs ++ ds) :=
  ⟨List.not_mem_append hcs.1 hds.1, List.not_mem_append hcs.2 hds.2⟩

theorem Unbraced.toList_append {s t : String} (hs : Unbraced s.toList) (ht : Unbraced t.toList) :
    Unbraced (s ++ t).toList := by
  rw [String.toList_append]
  exact hs.append ht

/-- What is made of the characters of a text without braces has none. -/
theorem Unbraced.of_subset {cs ds : List Char} (hds : Unbraced ds) (hsub : cs ⊆ ds) :
    Unbraced cs :=
  ⟨fun h => hds.1 (hsub h), fun h => hds.2 (hsub h)⟩

/-! ## Letter case -/

namespace Case

theorem eq_toNat_of_ofNat_eq {n : Nat} {d : Char} (hd : d.toNat ≠ 0) (h : Char.ofNat n = d) :
    n = d.toNat := by
  by_cases hvalid : n.isValidChar
  · rw [← h, Char.ofNat, dif_pos hvalid]
    rfl
  · rw [Char.ofNat, dif_neg hvalid] at h
    exact absurd (congrArg Char.toNat h.symm) hd

/-- Whether no table maps another code point to this one. -/
def untouched (several : List (Nat × List Nat)) (runs : List Run) (n : Nat) : Bool :=
  several.all (fun entry => !entry.2.contains n) &&
    runs.all fun r => !r.covers ((n : Int) - r.shift).toNat

/-- A character that no table maps another one to comes from itself only. -/
theorem eq_of_mem_mapped {several : List (Nat × List Nat)} {runs : List Run} {c d : Char}
    (hd : d.toNat ≠ 0) (huntouched : untouched several runs d.toNat = true)
    (hmem : d ∈ mapped several runs c) : d = c := by
  simp only [untouched, Bool.and_eq_true, List.all_eq_true, Bool.not_eq_true'] at huntouched
  obtain ⟨hseveral, hruns⟩ := huntouched
  rw [mapped] at hmem
  cases hlookup : several.lookup c.toNat with
  | some codes =>
    rw [hlookup] at hmem
    obtain ⟨n, hn, heq⟩ := List.mem_map.1 hmem
    obtain ⟨before, after, rfl, -⟩ := List.lookup_eq_some_iff.1 hlookup
    have hnone := hseveral (c.toNat, codes) (List.mem_append_right _ List.mem_cons_self)
    rw [← eq_toNat_of_ofNat_eq hd heq, List.contains_iff_mem.2 hn] at hnone
    exact absurd hnone.symm Bool.false_ne_true
  | none =>
    rw [hlookup] at hmem
    have hshifted : shifted runs c.toNat = d.toNat :=
      eq_toNat_of_ofNat_eq hd (List.mem_singleton.1 hmem).symm
    rcases shifted_cases runs c.toNat with ⟨r, hr, hcovers, hr'⟩ | ⟨-, hsame⟩
    · have hback : ((d.toNat : Int) - r.shift).toNat = c.toNat := by omega
      rw [← hback, hruns r hr] at hcovers
      exact absurd hcovers Bool.false_ne_true
    · exact Char.toNat_inj.1 (hshifted.symm.trans hsame)

theorem mem_of_mem_lowerFrom {before cs : List Char} {d : Char} (hd : d.toNat ≠ 0)
    (huntouched : untouched lowerSeveral lowerRuns d.toNat = true)
    (hsigma : d ≠ '\u03c2' ∧ d ≠ '\u03c3') (hmem : d ∈ lowerFrom before cs) : d ∈ cs := by
  induction cs generalizing before with
  | nil => exact hmem
  | cons c after ih =>
    rw [lowerFrom, List.mem_append] at hmem
    refine List.mem_cons.2 (hmem.imp (fun hmem => ?_) ih)
    split at hmem
    · have hsmall : ∀ before after, smallSigma before after ≠ d := by
        intro before after
        unfold smallSigma
        split
        · exact hsigma.1.symm
        · exact hsigma.2.symm
      exact absurd (List.mem_singleton.1 hmem).symm (hsmall before after)
    · exact eq_of_mem_mapped hd huntouched hmem

theorem mem_of_mem_upper {cs : List Char} {d : Char} (hd : d.toNat ≠ 0)
    (huntouched : untouched upperSeveral upperRuns d.toNat = true) (hmem : d ∈ upper cs) :
    d ∈ cs := by
  obtain ⟨c, hc, hd'⟩ := List.mem_flatMap.1 hmem
  rwa [eq_of_mem_mapped hd huntouched hd']

end Case

theorem lowerText_unbraced {s : String} (hs : Unbraced s.toList) :
    Unbraced (lowerText s).toList := by
  rw [lowerText, String.toList_ofList]
  exact ⟨fun h => hs.1 (Case.mem_of_mem_lowerFrom (by decide) (by decide +kernel) (by decide) h),
    fun h => hs.2 (Case.mem_of_mem_lowerFrom (by decide) (by decide +kernel) (by decide) h)⟩

theorem upperText_unbraced {s : String} (hs : Unbraced s.toList) :
    Unbraced (upperText s).toList := by
  rw [upperText, String.toList_ofList]
  exact ⟨fun h => hs.1 (Case.mem_of_mem_upper (by decide) (by decide +kernel) h),
    fun h => hs.2 (Case.mem_of_mem_upper (by decide) (by decide +kernel) h)⟩

/-! ## Numbers -/

theorem toDigits_unbraced (n : Nat) : Unbraced (Nat.toDigits 10 n) :=
  ⟨fun h => absurd (isPlainDigit_of_mem_toDigits h) (by decide),
    fun h => absurd (isPlainDigit_of_mem_toDigits h) (by decide)⟩

theorem toString_nat_unbraced (n : Nat) : Unbraced (toString n).toList := by
  rw [show (toString n).toList = Nat.toDigits 10 n from Nat.toList_repr]
  exact toDigits_unbraced n

theorem toString_int_unbraced (n : Int) : Unbraced (toString n).toList := by
  cases n with
  | ofNat n =>
    rw [Int.ofNat_eq_natCast, toList_toString_ofNat]
    exact toDigits_unbraced n
  | negSucc n =>
    rw [toList_toString_negSucc]
    have hsign : Unbraced ['-'] := by decide
    exact hsign.append (toDigits_unbraced (n + 1))

theorem pushn_unbraced {c : Char} (hc : Unbraced [c]) (n : Nat) :
    Unbraced ("".pushn c n).toList := by
  have hchars : ("".pushn c n).toList = List.replicate n c := by
    induction n with
    | zero => rfl
    | succ n ih =>
      rw [List.replicate_succ', ← ih]
      exact String.toList_push c
  rw [hchars]
  exact hc.of_subset fun d hd => List.mem_singleton.2 (List.eq_of_mem_replicate hd)

theorem take_unbraced {s : String} (hs : Unbraced s.toList) (n : Nat) :
    Unbraced (String.ofList (s.toList.take n)).toList := by
  rw [String.toList_ofList]
  exact hs.of_subset (List.take_subset n _)

theorem drop_unbraced {s : String} (hs : Unbraced s.toList) (n : Nat) :
    Unbraced (String.ofList (s.toList.drop n)).toList := by
  rw [String.toList_ofList]
  exact hs.of_subset (List.drop_subset n _)

end Text

open Text

namespace Binary64

theorem exponentText_unbraced (e : Int) : Unbraced (exponentText e).toList := by
  have hpadded : Unbraced (padded 2 e.natAbs).toList :=
    (pushn_unbraced (by decide) _).toList_append (toString_nat_unbraced _)
  rw [exponentText]
  split
  · exact Unbraced.toList_append (by decide) hpadded
  · exact Unbraced.toList_append (by decide) hpadded

theorem decimal_unbraced (style : Style) (digits : Nat) (unit : Int) :
    Unbraced (style.decimal digits unit).toList := by
  rw [Style.decimal]
  generalize dropZeros (toString digits).length digits = dropped
  obtain ⟨digits, zeros⟩ := dropped
  have hdigits := toString_nat_unbraced digits
  have hzeros := fun n => pushn_unbraced (c := '0') (by decide) n
  dsimp only
  split
  · decide
  · split
    · split
      · exact (hdigits.toList_append (hzeros _)).toList_append (by decide)
      · split
        · exact ((take_unbraced hdigits _).toList_append (by decide)).toList_append
            (drop_unbraced hdigits _)
        · exact (Unbraced.toList_append (by decide) (hzeros _)).toList_append hdigits
    · refine Unbraced.toList_append ((take_unbraced hdigits 1).toList_append ?_)
        (exponentText_unbraced _)
      split
      · split
        · decide
        · decide
      · exact Unbraced.toList_append (by decide) (drop_unbraced hdigits 1)

theorem render_unbraced (x : Binary64) : Unbraced (plain.render x).toList := by
  have hsign : ∀ negative : Bool, Unbraced (if negative then "-" else "").toList := by decide
  cases x with
  | nan => decide
  | infinity negative => exact (hsign negative).toList_append (by decide)
  | finite negative m e => exact (hsign negative).toList_append (decimal_unbraced _ _ _)

end Binary64

/-- A number is written without braces. -/
theorem Value.toText_unbraced {v : Value} (hv : v.isNumber = true) : Unbraced v.toText.toList := by
  cases v with
  | bool b => cases b <;> decide
  | int n => exact toString_int_unbraced n
  | float x => exact Binary64.render_unbraced x
  | _ => simp [isNumber] at hv

end AudioPlan
