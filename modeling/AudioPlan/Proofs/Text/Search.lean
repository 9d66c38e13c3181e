import AudioPlan.Text.Replace

/-!
# Searching and replacing text

The search functions on characters and the library's relations on lists agree: `dropFront?` is
about prefixes (`dropFront?_eq_some_iff`) and `occursIn` about infixes (`occursIn_iff_infix`).
Replacing copies a character that no occurrence starts with (`replaceAll_cons`), replaces an
occurrence as a whole (`replaceAll_append`) and does nothing where there is none
(`replaceAll_of_not_infix`).
-/

namespace AudioPlan.Text

theorem dropFront?_append (cs rest : List Char) : dropFront? cs (cs ++ rest) = some rest := by
  induction cs with
  | nil => rfl
  | cons c cs ih => rw [List.cons_append, dropFront?, if_pos rfl, ih]

theorem dropFront?_eq_some_iff {front cs rest : List Char} :
    dropFront? front cs = some rest ↔ cs = front ++ rest := by
  constructor
  · intro h
    induction front generalizing cs with
    | nil => simpa [dropFront?] using h
    | cons p front ih =>
      cases cs with
      | nil => simp [dropFront?] at h
      | cons c cs =>
        rw [dropFront?] at h
        split at h
        · rename_i heq
          rw [heq, ih h, List.cons_append]
        · simp at h
  · rintro rfl
    exact dropFront?_append front rest

/-- Whether two stretches of characters differ at a place that both have. -/
def differ : List Char → List Char → Bool
  | a :: as, b :: bs => a != b || differ as bs
  | _, _ => false

theorem dropFront?_of_differ {front cs : List Char} (hdiffer : differ front cs = true)
    (rest : List Char) : dropFront? front (cs ++ rest) = none := by
  induction front generalizing cs with
  | nil => simp [differ] at hdiffer
  | cons p front ih =>
    cases cs with
    | nil => simp [differ] at hdiffer
    | cons c cs =>
      rw [differ, Bool.or_eq_true, bne_iff_ne] at hdiffer
      rw [List.cons_append, dropFront?]
      by_cases heq : p = c
      · rw [if_pos heq]
        exact ih (hdiffer.resolve_left fun hne => hne heq)
      · rw [if_neg heq]

/-- Characters occur in others exactly when they are a stretch of them. -/
theorem occursIn_iff_infix {needle cs : List Char} :
    occursIn needle cs = true ↔ needle <:+: cs := by
  induction cs with
  | nil => simp [occursIn]
  | cons c cs ih =>
    rw [occursIn, Bool.or_eq_true, ih, List.infix_cons_iff]
    have hfront : (dropFront? needle (c :: cs)).isSome = true ↔ needle <+: c :: cs := by
      rw [Option.isSome_iff_exists]
      simp only [dropFront?_eq_some_iff]
      exact ⟨fun ⟨rest, h⟩ => ⟨rest, h.symm⟩, fun ⟨rest, h⟩ => ⟨rest, h.symm⟩⟩
    rw [hfront]

/-! ## Replacing -/

@[simp] theorem replaceAll_nil (old new : List Char) : replaceAll old new [] = [] := rfl

theorem replaceAll_cons {old : List Char} {c : Char} {cs : List Char} (h : ¬ old <+: c :: cs)
    (new : List Char) : replaceAll old new (c :: cs) = c :: replaceAll old new cs := by
  rw [replaceAll, replaceFrom]
  cases hdrop : dropFront? old (c :: cs) with
  | some rest => exact absurd ⟨rest, (dropFront?_eq_some_iff.1 hdrop).symm⟩ h
  | none => rfl

theorem replaceFrom_skip (old new cs rest : List Char) :
    replaceFrom old new cs.length (cs ++ rest) = replaceFrom old new 0 rest := by
  induction cs with
  | nil => rfl
  | cons c cs ih => exact ih

theorem replaceAll_append {old : List Char} (hold : old ≠ []) (new rest : List Char) :
    replaceAll old new (old ++ rest) = new ++ replaceAll old new rest := by
  obtain ⟨c, cs, rfl⟩ := List.exists_cons_of_ne_nil hold
  rw [replaceAll, List.cons_append, replaceFrom, ← List.cons_append, dropFront?_append]
  exact congrArg (new ++ ·) (replaceFrom_skip (c :: cs) new cs rest)

/-- Characters are copied where none of them can start an occurrence. -/
theorem replaceAll_append_of_not_mem {c : Char} {old cs : List Char} (h : c ∉ cs)
    (new rest : List Char) :
    replaceAll (c :: old) new (cs ++ rest) = cs ++ replaceAll (c :: old) new rest := by
  induction cs with
  | nil => rfl
  | cons d cs ih =>
    rw [List.cons_append, replaceAll_cons, ih (List.not_mem_of_not_mem_cons h), List.cons_append]
    intro hstart
    exact List.ne_of_not_mem_cons h (List.cons_prefix_cons.1 hstart).1

/-- Nothing is replaced where what is looked for does not occur. -/
theorem replaceAll_of_not_infix {old cs : List Char} (h : ¬ old <:+: cs) (new : List Char) :
    replaceAll old new cs = cs := by
  induction cs with
  | nil => rfl
  | cons d cs ih =>
    rw [replaceAll_cons fun hstart => h hstart.isInfix, ih fun hinfix => h (List.infix_cons hinfix)]

end AudioPlan.Text
