/-!
# Ranges of characters

A class of characters is a list of ranges of code points, in rising order, both ends included.  This
file holds the look-up; each class has a module of its own.
-/

namespace AudioPlan.Text

/-- The range that holds a code point.  The ranges stand in rising order, so the search ends at the
first one that starts beyond it. -/
def findRange : List (Nat × Nat) → Nat → Option (Nat × Nat)
  | [], _ => none
  | (first, last) :: rest, n =>
    if n < first then none
    else if n ≤ last then some (first, last)
    else findRange rest n

/-- Whether some range holds a code point. -/
def inRanges (ranges : List (Nat × Nat)) (n : Nat) : Bool :=
  (findRange ranges n).isSome

theorem findRange_bounds {ranges : List (Nat × Nat)} {n : Nat} {r : Nat × Nat}
    (h : findRange ranges n = some r) : r ∈ ranges ∧ r.1 ≤ n ∧ n ≤ r.2 := by
  induction ranges with
  | nil => simp [findRange] at h
  | cons head rest ih =>
    obtain ⟨first, last⟩ := head
    simp only [findRange] at h
    split at h
    · simp at h
    · split at h
      · cases h
        exact ⟨List.mem_cons_self, by omega, by omega⟩
      · obtain ⟨hmem, hbounds⟩ := ih h
        exact ⟨List.mem_cons_of_mem _ hmem, hbounds⟩

end AudioPlan.Text
