import AudioPlan.Text.Base64

/-!
# Base64 and back

The strict reading undoes the writing (`decodeBase64_encodeBase64`), and what is written consists of
characters of the alphabet with at most two signs of padding behind them
(`exists_encodeBase64_eq_append`).  A text with any other character is refused
(`exists_decodeBase64_eq_error`).
-/

namespace AudioPlan.Text

/-! ## Single characters -/

theorem base64Value?_base64Char {n : Nat} (hn : n < 64) : base64Value? (base64Char n) = some n := by
  have hall : ∀ m, m < 64 → base64Value? (base64Char m) = some m := by decide +kernel
  exact hall n hn

theorem base64Char_ne_padding {n : Nat} (hn : n < 64) : base64Char n ≠ '=' := by
  intro heq
  have hvalue := base64Value?_base64Char hn
  rw [heq] at hvalue
  simp [base64Value?] at hvalue

/-- The characters of the alphabet lie between the plus sign and the last small letter. -/
theorem toNat_of_base64Value? {c : Char} (hc : (base64Value? c).isSome = true) :
    0x2b ≤ c.toNat ∧ c.toNat ≤ 0x7a := by
  unfold base64Value? at hc
  simp only [Bool.and_eq_true, decide_eq_true_eq, Char.le_def, UInt32.le_iff_toNat_le] at hc
  split at hc
  · rename_i hletter
    have hlow : 0x41 ≤ c.toNat := hletter.1
    have hhigh : c.toNat ≤ 0x5a := hletter.2
    omega
  · split at hc
    · rename_i hletter
      have hlow : 0x61 ≤ c.toNat := hletter.1
      have hhigh : c.toNat ≤ 0x7a := hletter.2
      omega
    · split at hc
      · rename_i hdigit
        have hlow : 0x30 ≤ c.toNat := hdigit.1
        have hhigh : c.toNat ≤ 0x39 := hdigit.2
        omega
      · split at hc
        · rename_i hplus
          rw [hplus]
          decide
        · split at hc
          · rename_i hslash
            rw [hslash]
            decide
          · cases hc

/-! ## Reading what was written -/

theorem readSextets_base64Char {n : Nat} (hn : n < 64) (count pads : Nat) (rest : List Char) :
    readSextets count pads false (base64Char n :: rest) =
      (readSextets (count + 1) 0 false rest).map (n :: ·) := by
  rw [readSextets, if_neg (base64Char_ne_padding hn), base64Value?_base64Char hn]
  simp only [Bool.false_eq_true, ↓reduceIte]
  cases readSextets (count + 1) 0 false rest with
  | ok ns => rfl
  | error problem => rfl

/-- The groups of six bits of bytes. -/
def sextets : List UInt8 → List Nat
  | [] => []
  | [a] => [a.toNat / 4, a.toNat % 4 * 16]
  | [a, b] => [a.toNat / 4, a.toNat % 4 * 16 + b.toNat / 16, b.toNat % 16 * 4]
  | a :: b :: c :: rest =>
    a.toNat / 4 :: (a.toNat % 4 * 16 + b.toNat / 16) :: (b.toNat % 16 * 4 + c.toNat / 64) ::
      (c.toNat % 64) :: sextets rest

theorem joinSextets_sextets (bytes : List UInt8) : joinSextets (sextets bytes) = bytes := by
  have hfirst : ∀ a b : UInt8,
      (a.toNat / 4 * 4 + (a.toNat % 4 * 16 + b.toNat / 16) / 16).toUInt8 = a := by
    intro a b
    have hb := b.toNat_lt
    rw [show a.toNat / 4 * 4 + (a.toNat % 4 * 16 + b.toNat / 16) / 16 = a.toNat by omega]
    exact UInt8.ofNat_toNat
  have hsecond : ∀ a b c : UInt8,
      ((a.toNat % 4 * 16 + b.toNat / 16) % 16 * 16 +
        (b.toNat % 16 * 4 + c.toNat / 64) / 4).toUInt8 = b := by
    intro a b c
    have hb := b.toNat_lt
    have hc := c.toNat_lt
    rw [show (a.toNat % 4 * 16 + b.toNat / 16) % 16 * 16 +
      (b.toNat % 16 * 4 + c.toNat / 64) / 4 = b.toNat by omega]
    exact UInt8.ofNat_toNat
  have hthird : ∀ b c : UInt8,
      ((b.toNat % 16 * 4 + c.toNat / 64) % 4 * 64 + c.toNat % 64).toUInt8 = c := by
    intro b c
    have hc := c.toNat_lt
    rw [show (b.toNat % 16 * 4 + c.toNat / 64) % 4 * 64 + c.toNat % 64 = c.toNat by omega]
    exact UInt8.ofNat_toNat
  induction bytes using sextets.induct with
  | case1 => rfl
  | case2 a => simpa [sextets, joinSextets] using hfirst a 0
  | case3 a b =>
    rw [sextets, joinSextets, hfirst]
    simpa using hsecond a b 0
  | case4 a b c rest ih => rw [sextets, joinSextets, hfirst, hsecond, hthird, ih]

/-- Reading starts afresh behind every group of four characters. -/
theorem readSextets_encodeBase64 (bytes : List UInt8) {count : Nat} (hcount : count % 4 = 0)
    (pads : Nat) : readSextets count pads false (encodeBase64 bytes) = .ok (sextets bytes) := by
  induction bytes using encodeBase64.induct generalizing count pads with
  | case1 => rw [encodeBase64, readSextets, if_pos hcount, sextets]
  | case2 a =>
    have ha := a.toNat_lt
    rw [encodeBase64, readSextets_base64Char (by omega), readSextets_base64Char (by omega)]
    have hpads : readSextets (count + 1 + 1) 0 false ['=', '='] = .ok [] := by
      have htwo : (count + 1 + 1) % 4 = 2 := by omega
      simp [readSextets, htwo]
    rw [hpads]
    rfl
  | case3 a b =>
    have ha := a.toNat_lt
    have hb := b.toNat_lt
    rw [encodeBase64, readSextets_base64Char (by omega), readSextets_base64Char (by omega),
      readSextets_base64Char (by omega)]
    have hpads : readSextets (count + 1 + 1 + 1) 0 false ['='] = .ok [] := by
      have hthree : (count + 1 + 1 + 1) % 4 = 3 := by omega
      simp [readSextets, hthree]
    rw [hpads]
    rfl
  | case4 a b c rest ih =>
    have ha := a.toNat_lt
    have hb := b.toNat_lt
    have hc := c.toNat_lt
    rw [encodeBase64, readSextets_base64Char (by omega), readSextets_base64Char (by omega),
      readSextets_base64Char (by omega), readSextets_base64Char (by omega), ih (by omega)]
    rfl

/-! ## The shape of what is written -/

theorem sextets_lt (bytes : List UInt8) : ∀ n ∈ sextets bytes, n < 64 := by
  induction bytes using sextets.induct with
  | case1 => simp [sextets]
  | case2 a =>
    have ha := a.toNat_lt
    simp only [sextets, List.forall_mem_cons, List.not_mem_nil, false_implies, implies_true,
      and_true]
    omega
  | case3 a b =>
    have ha := a.toNat_lt
    have hb := b.toNat_lt
    simp only [sextets, List.forall_mem_cons, List.not_mem_nil, false_implies, implies_true,
      and_true]
    omega
  | case4 a b c rest ih =>
    have ha := a.toNat_lt
    have hb := b.toNat_lt
    have hc := c.toNat_lt
    simp only [sextets, List.forall_mem_cons]
    exact ⟨by omega, by omega, by omega, by omega, ih⟩

/-- Each group of six bits is written as one character, and padding fills up the last four. -/
theorem encodeBase64_eq (bytes : List UInt8) :
    encodeBase64 bytes =
      (sextets bytes).map base64Char ++ List.replicate ((3 - bytes.length % 3) % 3) '=' := by
  induction bytes using encodeBase64.induct with
  | case1 => rfl
  | case2 a => rfl
  | case3 a b => rfl
  | case4 a b c rest ih =>
    have hlength : (a :: b :: c :: rest).length % 3 = rest.length % 3 := by
      simp only [List.length_cons]
      omega
    rw [encodeBase64, ih, hlength]
    rfl

/-- What is written for some bytes is data in the alphabet with at most two signs of padding. -/
theorem exists_encodeBase64_eq_append {bytes : List UInt8} (hbytes : bytes ≠ []) :
    ∃ data pads, encodeBase64 bytes = data ++ List.replicate pads '=' ∧ data ≠ [] ∧
      (∀ c ∈ data, (base64Value? c).isSome = true) ∧ pads ≤ 2 := by
  refine ⟨(sextets bytes).map base64Char, (3 - bytes.length % 3) % 3, encodeBase64_eq bytes,
    ?_, ?_, by omega⟩
  · rw [ne_eq, List.map_eq_nil_iff]
    fun_cases sextets bytes <;> simp_all
  · intro c hc
    obtain ⟨n, hn, rfl⟩ := List.mem_map.1 hc
    rw [base64Value?_base64Char (sextets_lt bytes n hn)]
    rfl

/-! ## Reading everything -/

theorem head?_encodeBase64_ne_padding (bytes : List UInt8) :
    (encodeBase64 bytes).head? ≠ some '=' := by
  by_cases hbytes : bytes = []
  · rw [hbytes]
    decide
  · obtain ⟨data, pads, heq, hdata, hvalues, -⟩ := exists_encodeBase64_eq_append hbytes
    cases data with
    | nil => exact absurd rfl hdata
    | cons c data =>
      intro hhead
      have hc := hvalues c List.mem_cons_self
      have hpadding : c = '=' := by simpa [heq] using hhead
      rw [hpadding] at hc
      exact absurd hc (by decide)

/-- The strict reading undoes the writing. -/
theorem decodeBase64_encodeBase64 (bytes : List UInt8) :
    decodeBase64 (encodeBase64 bytes) = .ok bytes := by
  rw [decodeBase64, if_neg (head?_encodeBase64_ne_padding bytes),
    readSextets_encodeBase64 bytes (by decide)]
  simp only [joinSextets_sextets]

/-! ## What is refused -/

section Strange

variable {c : Char} (hvalue : base64Value? c = none) (hpadding : c ≠ '=')

include hvalue hpadding

/-- The reading comes to an end before a strange character or at it. -/
theorem exists_readSextets_eq_error {cs : List Char} (hmem : c ∈ cs) (count pads : Nat)
    (padding : Bool) : ∃ problem, readSextets count pads padding cs = .error problem := by
  induction cs generalizing count pads padding with
  | nil => exact absurd hmem List.not_mem_nil
  | cons d rest ih =>
    rw [readSextets]
    by_cases hd : d = '='
    · have hrest : c ∈ rest := (List.mem_cons.1 hmem).resolve_left fun h => hpadding (h.trans hd)
      rw [if_pos hd]
      split
      · rw [if_neg (mt List.isEmpty_iff.1 (List.ne_nil_of_mem hrest))]
        exact ⟨_, rfl⟩
      · exact ih hrest _ _ _
    · rw [if_neg hd]
      cases hn : base64Value? d with
      | none => exact ⟨_, rfl⟩
      | some n =>
        have hrest : c ∈ rest := by
          refine (List.mem_cons.1 hmem).resolve_left ?_
          rintro rfl
          exact nomatch hvalue.symm.trans hn
        cases padding with
        | true => exact ⟨_, rfl⟩
        | false =>
          obtain ⟨problem, hproblem⟩ := ih hrest (count + 1) 0 false
          rw [hproblem]
          exact ⟨problem, rfl⟩

/-- No text with a strange character is base64. -/
theorem exists_decodeBase64_eq_error {cs : List Char} (hmem : c ∈ cs) :
    ∃ problem, decodeBase64 cs = .error problem := by
  rw [decodeBase64]
  split
  · exact ⟨_, rfl⟩
  · obtain ⟨problem, hproblem⟩ := exists_readSextets_eq_error hvalue hpadding hmem 0 0 false
    rw [hproblem]
    exact ⟨problem, rfl⟩

end Strange

end AudioPlan.Text
