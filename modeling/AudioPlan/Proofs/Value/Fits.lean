import AudioPlan.Json.Writer
import AudioPlan.Proofs.Log.Failure
import Mathlib.Algebra.Group.Int.Defs
import Mathlib.Algebra.Group.Nat.Defs

/-!
# Values that can be written

An integer of more than `Text.digitLimit` digits has no text, and neither has a value with such an
integer in it.  A value can be written if its parts can (`Value.fits_list_iff`,
`Value.fits_map_iff`), and its texts, by itself and as JSON, are there exactly then
(`Value.ifFits_eq_ok_iff`, `Value.faults_ifFits_iff`).
-/

namespace AudioPlan

variable {n : Int} {s : String}

namespace Text

theorem fits_iff : fits n = true ↔ n.natAbs < 10 ^ digitLimit := by
  rw [fits, decide_eq_true_eq, Nat.length_toDigits_le_iff (by decide) (by decide)]

theorem not_fits_iff : fits n = false ↔ 10 ^ digitLimit ≤ n.natAbs := by
  rw [← Bool.not_eq_true, fits_iff, Nat.not_lt]

theorem not_fits_pow {k : Nat} (hk : digitLimit ≤ k) : fits (10 ^ k) = false := by
  rw [not_fits_iff, Int.natAbs_pow]
  exact Nat.pow_le_pow_right (by decide) hk

/-- Small integers can be written. -/
theorem fits_of_natAbs_lt (h : n.natAbs < 10 ^ 100) : fits n = true :=
  fits_iff.2 (Nat.lt_of_lt_of_le h (Nat.pow_le_pow_right (by decide) (by decide)))

theorem writeInt_eq_ok_iff : writeInt n = .ok s ↔ fits n = true ∧ s = toString n := by
  rw [writeInt]
  split
  · rename_i hfits
    simp [hfits, eq_comm]
  · rename_i hlong
    simp [hlong]

theorem faults_writeInt_iff : Faults (writeInt n) ↔ fits n = false := by
  rw [writeInt]
  split
  · rename_i hfits
    simp [hfits]
  · rename_i hlong
    simp [hlong]

end Text

namespace Value

variable {v : Value} {text : String}

/-! ## Parts -/

theorem fitItems_iff {items : List Value} :
    fitItems items = true ↔ ∀ v ∈ items, v.fits = true := by
  induction items with
  | nil => simp [fitItems]
  | cons v items ih => rw [fitItems, Bool.and_eq_true, ih, List.forall_mem_cons]

theorem fitEntries_iff {entries : List (String × Value)} :
    fitEntries entries = true ↔ ∀ entry ∈ entries, entry.2.fits = true := by
  induction entries with
  | nil => simp [fitEntries]
  | cons entry entries ih => rw [fitEntries, Bool.and_eq_true, ih, List.forall_mem_cons]

@[simp] theorem fits_null : null.fits = true := rfl

@[simp] theorem fits_bool (b : Bool) : (bool b).fits = true := rfl

@[simp] theorem fits_int (n : Int) : (int n).fits = Text.fits n := rfl

@[simp] theorem fits_text (s : String) : (Value.text s).fits = true := rfl

theorem fits_list_iff {items : List Value} :
    (list items).fits = true ↔ ∀ v ∈ items, v.fits = true :=
  fitItems_iff

theorem fits_map_iff {entries : List (String × Value)} :
    (map entries).fits = true ↔ ∀ entry ∈ entries, entry.2.fits = true :=
  fitEntries_iff

/-! ## Texts -/

theorem ifFits_of_fits (h : v.fits = true) : v.ifFits text = .ok text :=
  if_pos h

theorem ifFits_eq_ok_iff : v.ifFits text = .ok s ↔ v.fits = true ∧ s = text := by
  rw [ifFits]
  split
  · rename_i hfits
    simp [hfits, eq_comm]
  · rename_i hlong
    simp [hlong]

theorem faults_ifFits_iff : Faults (v.ifFits text) ↔ v.fits = false := by
  rw [ifFits]
  split
  · rename_i hfits
    simp [hfits]
  · rename_i hlong
    simp [hlong]

theorem written_eq_ok_iff : v.written = .ok s ↔ v.fits = true ∧ s = v.toText :=
  ifFits_eq_ok_iff

theorem faults_written_iff : Faults v.written ↔ v.fits = false :=
  faults_ifFits_iff

end Value

end AudioPlan
