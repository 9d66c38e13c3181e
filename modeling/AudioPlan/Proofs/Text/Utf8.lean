import AudioPlan.Text.Utf8

/-!
# UTF-8 and back

Decoding undoes encoding (`decodeUtf8_encodeUtf8`), and what can be decoded is the encoding of what
comes of it, so that no characters have two encodings (`decodeUtf8_eq_ok_iff`).  The proofs go by
the number of bytes of a character: each case writes the bytes as numbers, finds the branch that the
decoder takes on them, and puts the code together again, or takes it apart.
-/

namespace AudioPlan.Text

/-! ## Bytes as numbers -/

theorem toNat_toUInt8 {n : Nat} (hn : n < 0x100) : n.toUInt8.toNat = n :=
  UInt8.toNat_ofNat_of_lt' hn

theorem isContinuation_of_toNat {b : UInt8} (hlow : 0x80 ≤ b.toNat) (hhigh : b.toNat < 0xc0) :
    isContinuation b = true := by
  simp [isContinuation, UInt8.le_iff_toNat_le, UInt8.lt_iff_toNat_lt, hlow, hhigh]

/-- A continuation may follow unless it makes the code overlong, half a character or too large. -/
theorem mayFollow_of_toNat {a b : UInt8} (hlow : 0x80 ≤ b.toNat) (hhigh : b.toNat < 0xc0)
    (hthree : a.toNat = 0xe0 → 0xa0 ≤ b.toNat) (hhalf : a.toNat = 0xed → b.toNat < 0xa0)
    (hfour : a.toNat = 0xf0 → 0x90 ≤ b.toNat) (hlast : a.toNat = 0xf4 → b.toNat < 0x90) :
    mayFollow a b = true := by
  unfold mayFollow
  rw [isContinuation_of_toNat hlow hhigh]
  simp only [Bool.true_and, Bool.and_eq_true, Bool.or_eq_true, bne_iff_ne, ne_eq,
    decide_eq_true_eq, UInt8.le_iff_toNat_le, UInt8.lt_iff_toNat_lt, ← UInt8.toNat_inj,
    UInt8.reduceToNat]
  omega

/-- A byte that starts a character of more than one byte. -/
theorem isStart_of_toNat {a : UInt8} (hlow : 0xc2 ≤ a.toNat) (hhigh : a.toNat < 0xf5) :
    ¬ a < 0x80 ∧ ¬ (a < 0xc2 || 0xf5 ≤ a) = true := by
  simp only [Bool.or_eq_true, decide_eq_true_eq, UInt8.lt_iff_toNat_lt, UInt8.le_iff_toNat_le,
    UInt8.reduceToNat]
  omega

/-! ## The branches of the decoder -/

section Branches

variable {a b c d : UInt8} {rest : List UInt8} {cs : List Char}
  (hrest : ∀ position, decodeFrom position rest = .ok cs) (position : Nat)

include hrest

theorem decodeFrom_one (ha : a.toNat < 0x80) :
    decodeFrom position (a :: rest) = .ok (Char.ofNat a.toNat :: cs) := by
  have hone : a < 0x80 := UInt8.lt_iff_toNat_lt.2 ha
  rw [decodeFrom.eq_def]
  simp only [if_pos hone, hrest]

theorem decodeFrom_two (hlow : 0xc2 ≤ a.toNat) (hhigh : a.toNat < 0xe0)
    (hb : mayFollow a b = true) :
    decodeFrom position (a :: b :: rest) =
      .ok (Char.ofNat ((a.toNat - 0xc0) * 0x40 + sixBits b) :: cs) := by
  obtain ⟨hone, hstart⟩ := isStart_of_toNat hlow (by omega)
  have htwo : a < 0xe0 := UInt8.lt_iff_toNat_lt.2 hhigh
  rw [decodeFrom.eq_def]
  simp only [if_neg hone, if_neg hstart, if_pos htwo, hb, hrest, Bool.not_true, Bool.false_eq_true,
    ↓reduceIte]

theorem decodeFrom_three (hlow : 0xe0 ≤ a.toNat) (hhigh : a.toNat < 0xf0)
    (hb : mayFollow a b = true) (hc : isContinuation c = true) :
    decodeFrom position (a :: b :: c :: rest) =
      .ok (Char.ofNat ((a.toNat - 0xe0) * 0x1000 + sixBits b * 0x40 + sixBits c) :: cs) := by
  obtain ⟨hone, hstart⟩ := isStart_of_toNat (a := a) (by omega) (by omega)
  have htwo : ¬ a < 0xe0 := UInt8.not_lt.2 (UInt8.le_iff_toNat_le.2 hlow)
  have hthree : a < 0xf0 := UInt8.lt_iff_toNat_lt.2 hhigh
  rw [decodeFrom.eq_def]
  simp only [if_neg hone, if_neg hstart, if_neg htwo, if_pos hthree, hb, hc, hrest, Bool.not_true,
    Bool.false_eq_true, ↓reduceIte]

theorem decodeFrom_four (hlow : 0xf0 ≤ a.toNat) (hhigh : a.toNat < 0xf5)
    (hb : mayFollow a b = true) (hc : isContinuation c = true) (hd : isContinuation d = true) :
    decodeFrom position (a :: b :: c :: d :: rest) =
      .ok (Char.ofNat ((a.toNat - 0xf0) * 0x40000 + sixBits b * 0x1000 + sixBits c * 0x40 +
        sixBits d) :: cs) := by
  obtain ⟨hone, hstart⟩ := isStart_of_toNat (a := a) (by omega) (by omega)
  have hthree : ¬ a < 0xf0 := UInt8.not_lt.2 (UInt8.le_iff_toNat_le.2 hlow)
  have htwo : ¬ a < 0xe0 := by
    intro htwo
    exact hthree (UInt8.lt_trans htwo (by decide))
  rw [decodeFrom.eq_def]
  simp only [if_neg hone, if_neg hstart, if_neg htwo, if_neg hthree, hb, hc, hd, hrest,
    Bool.not_true, Bool.false_eq_true, ↓reduceIte]

end Branches

/-! ## Characters -/

/-- Decoding reads one encoded character and goes on behind it. -/
theorem decodeFrom_encodeChar (c : Char) {rest : List UInt8} {cs : List Char}
    (hrest : ∀ position, decodeFrom position rest = .ok cs) (position : Nat) :
    decodeFrom position (encodeChar c ++ rest) = .ok (c :: cs) := by
  have hvalid : c.toNat < 0xd800 ∨ (0xdfff < c.toNat ∧ c.toNat < 0x110000) := c.valid
  have hofNat : Char.ofNat c.toNat = c := Char.ofNat_toNat c
  simp only [encodeChar]
  -- One case for each number of bytes.  From here on the code is a number, as the bytes are.
  generalize c.toNat = n at hvalid hofNat ⊢
  by_cases hone : n < 0x80
  · have ha := toNat_toUInt8 (show n < 0x100 by omega)
    rw [if_pos hone, List.singleton_append, decodeFrom_one hrest position (by omega), ha, hofNat]
  rw [if_neg hone]
  by_cases htwo : n < 0x800
  · have ha := toNat_toUInt8 (show 0xc0 + n / 0x40 < 0x100 by omega)
    have hb := toNat_toUInt8 (show 0x80 + n % 0x40 < 0x100 by omega)
    have hfollow := mayFollow_of_toNat (a := (0xc0 + n / 0x40).toUInt8)
      (b := (0x80 + n % 0x40).toUInt8) (by omega) (by omega) (by omega) (by omega) (by omega)
      (by omega)
    have hcode : ((0xc0 + n / 0x40).toUInt8.toNat - 0xc0) * 0x40 +
        sixBits (0x80 + n % 0x40).toUInt8 = n := by
      unfold sixBits
      omega
    rw [if_pos htwo, List.cons_append, List.singleton_append,
      decodeFrom_two hrest position (by omega) (by omega) hfollow, hcode, hofNat]
  rw [if_neg htwo]
  by_cases hthree : n < 0x10000
  · have ha := toNat_toUInt8 (show 0xe0 + n / 0x1000 < 0x100 by omega)
    have hb := toNat_toUInt8 (show 0x80 + n / 0x40 % 0x40 < 0x100 by omega)
    have hc := toNat_toUInt8 (show 0x80 + n % 0x40 < 0x100 by omega)
    have hfollow := mayFollow_of_toNat (a := (0xe0 + n / 0x1000).toUInt8)
      (b := (0x80 + n / 0x40 % 0x40).toUInt8) (by omega) (by omega) (by omega) (by omega)
      (by omega) (by omega)
    have hcode : ((0xe0 + n / 0x1000).toUInt8.toNat - 0xe0) * 0x1000 +
        sixBits (0x80 + n / 0x40 % 0x40).toUInt8 * 0x40 + sixBits (0x80 + n % 0x40).toUInt8 =
          n := by
      unfold sixBits
      omega
    rw [if_pos hthree, List.cons_append, List.cons_append, List.singleton_append,
      decodeFrom_three hrest position (by omega) (by omega) hfollow
        (isContinuation_of_toNat (by omega) (by omega)), hcode, hofNat]
  · have ha := toNat_toUInt8 (show 0xf0 + n / 0x40000 < 0x100 by omega)
    have hb := toNat_toUInt8 (show 0x80 + n / 0x1000 % 0x40 < 0x100 by omega)
    have hc := toNat_toUInt8 (show 0x80 + n / 0x40 % 0x40 < 0x100 by omega)
    have hd := toNat_toUInt8 (show 0x80 + n % 0x40 < 0x100 by omega)
    have hfollow := mayFollow_of_toNat (a := (0xf0 + n / 0x40000).toUInt8)
      (b := (0x80 + n / 0x1000 % 0x40).toUInt8) (by omega) (by omega) (by omega) (by omega)
      (by omega) (by omega)
    have hcode : ((0xf0 + n / 0x40000).toUInt8.toNat - 0xf0) * 0x40000 +
        sixBits (0x80 + n / 0x1000 % 0x40).toUInt8 * 0x1000 +
        sixBits (0x80 + n / 0x40 % 0x40).toUInt8 * 0x40 + sixBits (0x80 + n % 0x40).toUInt8 =
          n := by
      unfold sixBits
      omega
    rw [if_neg hthree, List.cons_append, List.cons_append, List.cons_append,
      List.singleton_append, decodeFrom_four hrest position (by omega) (by omega) hfollow
        (isContinuation_of_toNat (by omega) (by omega))
        (isContinuation_of_toNat (by omega) (by omega)), hcode, hofNat]

/-! ## Texts -/

theorem decodeFrom_encodeUtf8 (cs : List Char) (position : Nat) :
    decodeFrom position (encodeUtf8 cs) = .ok cs := by
  induction cs generalizing position with
  | nil => rfl
  | cons c cs ih =>
    rw [encodeUtf8, List.flatMap_cons]
    exact decodeFrom_encodeChar c ih position

/-- Decoding undoes encoding. -/
theorem decodeUtf8_encodeUtf8 (cs : List Char) : decodeUtf8 (encodeUtf8 cs) = .ok cs :=
  decodeFrom_encodeUtf8 cs 0

theorem encodeChar_ne_nil (c : Char) : encodeChar c ≠ [] := by
  unfold encodeChar
  simp only []
  split
  · simp
  · split
    · simp
    · split <;> simp

theorem encodeUtf8_ne_nil {cs : List Char} (hcs : cs ≠ []) : encodeUtf8 cs ≠ [] := by
  cases cs with
  | nil => exact absurd rfl hcs
  | cons c cs =>
    rw [encodeUtf8, List.flatMap_cons]
    exact List.append_ne_nil_of_left_ne_nil (encodeChar_ne_nil c) _

/-! ## Back again -/

theorem toNat_of_isContinuation {b : UInt8} (hb : isContinuation b = true) :
    0x80 ≤ b.toNat ∧ b.toNat < 0xc0 := by
  simpa [isContinuation, UInt8.le_iff_toNat_le, UInt8.lt_iff_toNat_lt] using hb

theorem toNat_of_mayFollow {a b : UInt8} (hb : mayFollow a b = true) :
    (0x80 ≤ b.toNat ∧ b.toNat < 0xc0) ∧ (a.toNat = 0xe0 → 0xa0 ≤ b.toNat) ∧
      (a.toNat = 0xed → b.toNat < 0xa0) ∧ (a.toNat = 0xf0 → 0x90 ≤ b.toNat) ∧
      (a.toNat = 0xf4 → b.toNat < 0x90) := by
  simp only [mayFollow, Bool.and_eq_true, Bool.or_eq_true, bne_iff_ne, ne_eq, decide_eq_true_eq,
    UInt8.le_iff_toNat_le, UInt8.lt_iff_toNat_lt, ← UInt8.toNat_inj, UInt8.reduceToNat] at hb
  obtain ⟨⟨⟨⟨hb, hthree⟩, hhalf⟩, hfour⟩, hlast⟩ := hb
  refine ⟨toNat_of_isContinuation hb, ?_, ?_, ?_, ?_⟩
  · omega
  · omega
  · omega
  · omega

theorem toNat_ofNat {n : Nat} (hn : n < 0xd800 ∨ (0xdfff < n ∧ n < 0x110000)) :
    (Char.ofNat n).toNat = n := by
  have hvalid : n.isValidChar := hn
  rw [Char.ofNat, dif_pos hvalid]
  rfl

theorem toUInt8_eq {n : Nat} {b : UInt8} (h : n = b.toNat) : n.toUInt8 = b := by
  rw [h]
  exact UInt8.ofNat_toNat

section Encoded

variable {a b c d : UInt8}

theorem encodeChar_one (ha : a.toNat < 0x80) : encodeChar (Char.ofNat a.toNat) = [a] := by
  simp only [encodeChar, toNat_ofNat (n := a.toNat) (by omega)]
  rw [if_pos ha, toUInt8_eq rfl]

theorem encodeChar_two (hlow : 0xc2 ≤ a.toNat) (hhigh : a.toNat < 0xe0)
    (hb : mayFollow a b = true) :
    encodeChar (Char.ofNat ((a.toNat - 0xc0) * 0x40 + sixBits b)) = [a, b] := by
  obtain ⟨⟨hlowb, hhighb⟩, -⟩ := toNat_of_mayFollow hb
  unfold sixBits
  generalize hn : (a.toNat - 0xc0) * 0x40 + (b.toNat - 0x80) = n
  simp only [encodeChar, toNat_ofNat (n := n) (by omega)]
  rw [if_neg (by omega), if_pos (by omega), toUInt8_eq (b := a) (by omega),
    toUInt8_eq (b := b) (by omega)]

theorem encodeChar_three (hlow : 0xe0 ≤ a.toNat) (hhigh : a.toNat < 0xf0)
    (hb : mayFollow a b = true) (hc : isContinuation c = true) :
    encodeChar (Char.ofNat ((a.toNat - 0xe0) * 0x1000 + sixBits b * 0x40 + sixBits c)) =
      [a, b, c] := by
  obtain ⟨⟨hlowb, hhighb⟩, hthree, hhalf, -⟩ := toNat_of_mayFollow hb
  obtain ⟨hlowc, hhighc⟩ := toNat_of_isContinuation hc
  unfold sixBits
  generalize hn : (a.toNat - 0xe0) * 0x1000 + (b.toNat - 0x80) * 0x40 + (c.toNat - 0x80) = n
  simp only [encodeChar, toNat_ofNat (n := n) (by omega)]
  rw [if_neg (by omega), if_neg (by omega), if_pos (by omega), toUInt8_eq (b := a) (by omega),
    toUInt8_eq (b := b) (by omega), toUInt8_eq (b := c) (by omega)]

theorem encodeChar_four (hlow : 0xf0 ≤ a.toNat) (hhigh : a.toNat < 0xf5)
    (hb : mayFollow a b = true) (hc : isContinuation c = true) (hd : isContinuation d = true) :
    encodeChar (Char.ofNat ((a.toNat - 0xf0) * 0x40000 + sixBits b * 0x1000 + sixBits c * 0x40 +
      sixBits d)) = [a, b, c, d] := by
  obtain ⟨⟨hlowb, hhighb⟩, -, -, hfour, hlast⟩ := toNat_of_mayFollow hb
  obtain ⟨hlowc, hhighc⟩ := toNat_of_isContinuation hc
  obtain ⟨hlowd, hhighd⟩ := toNat_of_isContinuation hd
  unfold sixBits
  generalize hn : (a.toNat - 0xf0) * 0x40000 + (b.toNat - 0x80) * 0x1000 +
    (c.toNat - 0x80) * 0x40 + (d.toNat - 0x80) = n
  simp only [encodeChar, toNat_ofNat (n := n) (by omega)]
  rw [if_neg (by omega), if_neg (by omega), if_neg (by omega), toUInt8_eq (b := a) (by omega),
    toUInt8_eq (b := b) (by omega), toUInt8_eq (b := c) (by omega),
    toUInt8_eq (b := d) (by omega)]

end Encoded

theorem encodeUtf8_of_decodeFrom {position : Nat} {bytes : List UInt8} {cs : List Char}
    (h : decodeFrom position bytes = .ok cs) : encodeUtf8 cs = bytes := by
  fun_induction decodeFrom position bytes generalizing cs with
  | case1 =>
    cases h
    rfl
  | case2 =>
    rename_i hone _ hrest ih
    cases h
    rw [encodeUtf8, List.flatMap_cons, encodeChar_one (UInt8.lt_iff_toNat_lt.1 hone)]
    exact congrArg _ (ih hrest)
  | case7 =>
    rename_i hone hstart htwo b _ hb _ hrest ih
    cases h
    simp only [Bool.or_eq_true, decide_eq_true_eq, Bool.not_eq_true', Bool.not_eq_false,
      UInt8.lt_iff_toNat_lt, UInt8.reduceToNat] at hstart htwo hb
    rw [encodeUtf8, List.flatMap_cons, encodeChar_two (by omega) htwo hb]
    exact congrArg _ (ih hrest)
  | case13 =>
    rename_i hone hstart htwo hthree b hb c _ hc _ hrest ih
    cases h
    simp only [Bool.not_eq_true', Bool.not_eq_false, UInt8.lt_iff_toNat_lt,
      UInt8.reduceToNat] at htwo hthree hb hc
    rw [encodeUtf8, List.flatMap_cons, encodeChar_three (by omega) hthree hb hc]
    exact congrArg _ (ih hrest)
  | case21 =>
    rename_i hone hstart htwo hthree b hb c hc d _ hd _ hrest ih
    cases h
    simp only [Bool.or_eq_true, decide_eq_true_eq, Bool.not_eq_true', Bool.not_eq_false,
      UInt8.lt_iff_toNat_lt, UInt8.le_iff_toNat_le, UInt8.reduceToNat] at hstart hthree hb hc hd
    rw [encodeUtf8, List.flatMap_cons, encodeChar_four (by omega) (by omega) hb hc hd]
    exact congrArg _ (ih hrest)
  | _ => exact nomatch h

/-- Bytes denote characters exactly when they are their encoding. -/
theorem decodeUtf8_eq_ok_iff {bytes : List UInt8} {cs : List Char} :
    decodeUtf8 bytes = .ok cs ↔ encodeUtf8 cs = bytes := by
  constructor
  · exact encodeUtf8_of_decodeFrom
  · rintro rfl
    exact decodeUtf8_encodeUtf8 cs

end AudioPlan.Text
