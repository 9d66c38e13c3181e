import AudioPlan.Proofs.Json.RoundTrip

/-!
# JSON on one line

A layout that sets no item on a line of its own writes a value on one line, whatever its texts hold:
control characters are always written by escapes.  `Flat` says that there are none among the
characters that are written, and `Exact.flat_write` that this is so at every depth of a value.
-/

namespace AudioPlan.Json

/-! ## Characters of a line -/

/-- Characters without a control character among them, hence without the end of a line. -/
def Flat (cs : List Char) : Prop :=
  ∀ c ∈ cs, 0x20 ≤ c.toNat

instance (cs : List Char) : Decidable (Flat cs) :=
  List.decidableBAll (fun c : Char => 0x20 ≤ c.toNat) cs

/-- Layouts that write everything on one line. -/
structure Layout.OneLine (layout : Layout) : Prop where
  indent : layout.indent = none
  comma : Flat layout.comma.toList
  colon : Flat layout.colon.toList

theorem spaced_oneLine : spaced.OneLine :=
  ⟨rfl, by decide, by decide⟩

theorem spaced_standard : spaced.Standard :=
  ⟨⟨[' '], rfl, by simp [IsGap, isSpace]⟩, ⟨[' '], rfl, by simp [IsGap, isSpace]⟩⟩

@[simp] theorem flat_nil : Flat [] :=
  List.forall_mem_nil _

@[simp] theorem flat_cons {c : Char} {cs : List Char} : Flat (c :: cs) ↔ 0x20 ≤ c.toNat ∧ Flat cs :=
  List.forall_mem_cons

@[simp] theorem flat_append {cs ds : List Char} : Flat (cs ++ ds) ↔ Flat cs ∧ Flat ds :=
  List.forall_mem_append

/-- There is no end of a line among the characters of a line. -/
theorem Flat.not_mem {cs : List Char} (h : Flat cs) : '\n' ∉ cs ∧ '\r' ∉ cs :=
  ⟨fun hmem => absurd (h '\n' hmem) (by decide), fun hmem => absurd (h '\r' hmem) (by decide)⟩

/-! ## Texts and numbers -/

theorem flat_codeEscape {n : Nat} (hn : n < 0x10000) : Flat (codeEscape n) := by
  have hdigit : ∀ d, d < 16 → 0x20 ≤ (Nat.digitChar d).toNat := by decide
  rw [codeEscape, inBase_sixteen_four hn]
  simp only [flat_cons, flat_nil, and_true]
  exact ⟨by decide, by decide, hdigit _ (by omega), hdigit _ (by omega), hdigit _ (by omega),
    hdigit _ (by omega)⟩

theorem flat_codeEscapes (c : Char) : Flat (codeEscapes c) := by
  have hvalid : c.toNat < 0xd800 ∨ (0xdfff < c.toNat ∧ c.toNat < 0x110000) := c.valid
  rw [codeEscapes]
  split
  · rename_i hsmall
    exact flat_codeEscape hsmall
  · exact flat_append.2 ⟨flat_codeEscape (by omega), flat_codeEscape (by omega)⟩

theorem le_toNat_of_letterEscape? {e c : Char} (h : letterEscape? e = some c) :
    0x20 ≤ e.toNat := by
  unfold letterEscape? at h
  split at h
  all_goals first | decide | cases h

/-- A character is written without control characters, even if it is one. -/
theorem flat_writeChar (plain : Bool) (c : Char) : Flat (writeChar plain c) := by
  rcases writeChar_cases plain c with ⟨e, heq, hletter, -⟩ | ⟨heq, -⟩ | ⟨heq, -, -, hc, -⟩
  · rw [heq]
    simp only [flat_cons, flat_nil, and_true]
    exact ⟨by decide, le_toNat_of_letterEscape? hletter⟩
  · rw [heq]
    exact flat_codeEscapes c
  · rw [heq]
    simpa using hc

theorem flat_writeText (plain : Bool) (s : String) : Flat (writeText plain s) := by
  have hchars : Flat (s.toList.flatMap (writeChar plain)) := by
    intro d hd
    obtain ⟨c, -, hwritten⟩ := List.mem_flatMap.1 hd
    exact flat_writeChar plain c d hwritten
  rw [writeText, flat_append, flat_cons]
  exact ⟨⟨by decide, hchars⟩, by decide⟩

theorem flat_toDigits (n : Nat) : Flat (Nat.toDigits 10 n) := by
  intro c hc
  have hdigit := Text.isPlainDigit_of_mem_toDigits hc
  rw [Text.isPlainDigit, Bool.and_eq_true, decide_eq_true_eq, decide_eq_true_eq] at hdigit
  have hzero : '0'.toNat ≤ c.toNat := hdigit.1
  exact Nat.le_trans (by decide) hzero

theorem flat_toString (n : Int) : Flat (toString n).toList := by
  cases n with
  | ofNat m =>
    rw [Int.ofNat_eq_natCast, Text.toList_toString_ofNat]
    exact flat_toDigits m
  | negSucc m =>
    rw [Text.toList_toString_negSucc, flat_cons]
    exact ⟨by decide, flat_toDigits _⟩

/-! ## Values -/

section Layouts

variable {layout : Layout} (hlayout : layout.OneLine) {depth : Nat}

include hlayout

theorem flat_newline (depth : Nat) : Flat (layout.newline depth) := by
  rw [Layout.newline, hlayout.indent]
  exact flat_nil

theorem flat_between (depth : Nat) : Flat (layout.between depth) := by
  rw [Layout.between, hlayout.indent]
  exact hlayout.comma

theorem flat_writeItems {items : List Value} (hitems : ∀ v ∈ items, Flat (layout.write depth v)) :
    Flat (layout.writeItems depth items) := by
  induction items with
  | nil =>
    rw [Layout.writeItems]
    exact flat_nil
  | cons v items ih =>
    obtain ⟨hv, hrest⟩ := List.forall_mem_cons.1 hitems
    rw [Layout.writeItems, flat_append, flat_append]
    exact ⟨⟨flat_between hlayout depth, hv⟩, ih hrest⟩

theorem flat_writeEntries {entries : List (String × Value)}
    (hentries : ∀ entry ∈ entries, Flat (layout.write depth entry.2)) :
    Flat (layout.writeEntries depth entries) := by
  induction entries with
  | nil =>
    rw [Layout.writeEntries]
    exact flat_nil
  | cons entry entries ih =>
    obtain ⟨hv, hrest⟩ := List.forall_mem_cons.1 hentries
    rw [Layout.writeEntries]
    simp only [flat_append]
    exact ⟨⟨⟨⟨flat_between hlayout depth, flat_writeText _ _⟩, hlayout.colon⟩, hv⟩, ih hrest⟩

/-- A value that JSON holds exactly is written on one line, at every depth. -/
theorem Exact.flat_write {v : Value} (hv : Exact v) (depth : Nat) :
    Flat (layout.write depth v) := by
  induction hv generalizing depth with
  | null =>
    rw [Layout.write]
    decide
  | bool b => cases b <;> rw [Layout.write] <;> decide
  | int n =>
    rw [Layout.write]
    exact flat_toString n
  | text s =>
    rw [Layout.write]
    exact flat_writeText _ s
  | @list items hitems ih =>
    cases items with
    | nil =>
      rw [Layout.write]
      decide
    | cons v items =>
      obtain ⟨hv, hrest⟩ := List.forall_mem_cons.1 ih
      rw [Layout.write]
      simp only [flat_append, flat_cons, flat_nil, and_true]
      have hitems := flat_writeItems hlayout fun w hw => hrest w hw (depth + 1)
      exact ⟨⟨⟨⟨⟨by decide, flat_newline hlayout _⟩, hv _⟩, hitems⟩, flat_newline hlayout _⟩,
        by decide⟩
  | @map entries hkeys hentries ih =>
    cases entries with
    | nil =>
      rw [Layout.write]
      decide
    | cons entry entries =>
      obtain ⟨hv, hrest⟩ := List.forall_mem_cons.1 ih
      rw [Layout.write]
      simp only [flat_append, flat_cons, flat_nil, and_true]
      have hentries := flat_writeEntries hlayout fun other hother => hrest other hother (depth + 1)
      exact ⟨⟨⟨⟨⟨⟨⟨by decide, flat_newline hlayout _⟩, flat_writeText _ _⟩, hlayout.colon⟩, hv _⟩,
        hentries⟩, flat_newline hlayout _⟩, by decide⟩

end Layouts

end AudioPlan.Json
