import AudioPlan.Text.Blank

/-!
# Trimming

Printable characters of one byte are no blanks, apart from the space (`isBlank_of_printable`).
Trimming takes the blanks around characters without blanks away, and stops at such characters when
others follow them (`trim_append`).  Whatever stands around characters without blanks, trimming
leaves them where they are (`infix_trim`).
-/

namespace AudioPlan.Text

theorem isBlank_of_printable {c : Char} (hlow : 0x20 < c.toNat) (hhigh : c.toNat < 0x7f) :
    isBlank c = false := by
  have hall : ∀ n, n < 0x7f → 0x20 < n → inRanges blankRanges n = false := by decide +kernel
  exact hall c.toNat hhigh hlow

theorem trimEnd_of_isBlank {cs : List Char} (hcs : ∀ c ∈ cs, isBlank c = true) :
    trimEnd cs = [] := by
  have hreverse : ∀ c ∈ cs.reverse, isBlank c = true := fun c hc => hcs c (List.mem_reverse.1 hc)
  have hdrop : (cs.reverse ++ []).dropWhile isBlank = [] := List.dropWhile_append_of_pos hreverse
  rw [List.append_nil] at hdrop
  rw [trimEnd, hdrop]
  rfl

section Trim

variable {before cs : List Char} (hne : cs ≠ []) (hcs : ∀ c ∈ cs, isBlank c = false)

include hne hcs

theorem trimStart_append (hbefore : ∀ c ∈ before, isBlank c = true) (rest : List Char) :
    trimStart (before ++ (cs ++ rest)) = cs ++ rest := by
  rw [trimStart, List.dropWhile_append_of_pos hbefore]
  cases cs with
  | nil => exact absurd rfl hne
  | cons c cs =>
    have hc : ¬ isBlank c = true := by
      rw [hcs c List.mem_cons_self]
      exact Bool.false_ne_true
    rw [List.cons_append, List.dropWhile_cons_of_neg hc]

theorem trimEnd_append (rest : List Char) : trimEnd (cs ++ rest) = cs ++ trimEnd rest := by
  have hstop : cs.reverse.dropWhile isBlank = cs.reverse := by
    have hreverse : trimStart ([] ++ (cs.reverse ++ [])) = cs.reverse ++ [] :=
      trimStart_append (by simpa using hne) (fun c hc => hcs c (List.mem_reverse.1 hc)) (by simp) []
    rwa [List.nil_append, List.append_nil] at hreverse
  rw [trimEnd, trimEnd, List.reverse_append, List.dropWhile_append]
  split
  · rename_i hempty
    rw [List.isEmpty_iff.1 hempty, hstop]
    simp
  · rw [List.reverse_append, List.reverse_reverse]

/-- Trimming stops at characters that are no blanks. -/
theorem trim_append (hbefore : ∀ c ∈ before, isBlank c = true) (rest : List Char) :
    trim (before ++ (cs ++ rest)) = cs ++ trimEnd rest := by
  rw [trim, trimStart_append hne hcs hbefore, trimEnd_append hne hcs]

/-- What is in front of such characters may lose its own blanks in front, and no more. -/
theorem exists_trimStart_append (before rest : List Char) :
    ∃ front, trimStart (before ++ (cs ++ rest)) = front ++ (cs ++ rest) := by
  rw [trimStart, List.dropWhile_append]
  split
  · have hstop : trimStart ([] ++ (cs ++ rest)) = cs ++ rest :=
      trimStart_append hne hcs (by simp) rest
    exact ⟨[], hstop⟩
  · exact ⟨_, rfl⟩

/-- Trimming takes none of the characters away that are no blanks. -/
theorem infix_trim {text : List Char} (h : cs <:+: text) : cs <:+: trim text := by
  obtain ⟨before, after, rfl⟩ := h
  obtain ⟨front, hfront⟩ := exists_trimStart_append hne hcs before after
  -- The other end is trimmed as the first one is, with the characters in reverse.
  have hreverse : ∀ c ∈ cs.reverse, isBlank c = false := fun c hc => hcs c (List.mem_reverse.1 hc)
  obtain ⟨back, hback⟩ := exists_trimStart_append (mt List.reverse_eq_nil_iff.1 hne) hreverse
    after.reverse front.reverse
  refine ⟨front, back.reverse, ?_⟩
  have hends : trimEnd (front ++ (cs ++ after)) =
      (trimStart (after.reverse ++ (cs.reverse ++ front.reverse))).reverse := by
    rw [trimEnd, trimStart, List.reverse_append, List.reverse_append, List.append_assoc]
  rw [List.append_assoc before, trim, hfront, hends, hback]
  simp only [List.reverse_append, List.reverse_reverse, List.append_assoc]

end Trim

/-- A text that starts with no blank starts with the same character when it is trimmed. -/
theorem head?_trim_cons {c : Char} (hc : isBlank c = false) (rest : List Char) :
    (trim (c :: rest)).head? = some c := by
  have htrim : trim ([] ++ ([c] ++ rest)) = [c] ++ trimEnd rest :=
    trim_append (List.cons_ne_nil c []) (List.forall_mem_singleton.2 hc) (by simp) rest
  rw [List.nil_append, List.singleton_append] at htrim
  rw [htrim]
  rfl

/-- What trimming leaves stands in the text. -/
theorem trim_infix (text : List Char) : trim text <:+: text := by
  have hend : trimEnd (trimStart text) <+: trimStart text := by
    rw [trimEnd, ← List.reverse_suffix, List.reverse_reverse]
    exact List.dropWhile_suffix isBlank
  exact hend.isInfix.trans (List.dropWhile_suffix isBlank).isInfix

end AudioPlan.Text
