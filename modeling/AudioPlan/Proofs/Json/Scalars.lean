import AudioPlan.Json.Reader
import AudioPlan.Json.Writer
import AudioPlan.Proofs.Text.Decimal

/-!
# JSON texts, numbers and words and back

The readers of texts and numbers undo the writers, whatever follows a text
(`readText_flatMap_writeChar`) and as long as no more of a number follows an integer
(`readScalar_toString`).
A text is read as codes, of which an escaped character beyond the first 65536 takes two, and
`joinHalves` puts them together again.
-/

namespace AudioPlan.Json

/-! ## Escapes by code -/

theorem baseDigit?_digitChar {d : Nat} (hd : d < 16) :
    Text.baseDigit? (Nat.digitChar d) = some d := by
  have hall : ∀ d, d < 16 → Text.baseDigit? (Nat.digitChar d) = some d := by decide +kernel
  exact hall d hd

/-- A code in four digits, one for each group of four bits. -/
theorem inBase_sixteen_four {n : Nat} (hn : n < 0x10000) :
    Text.inBase 16 4 n = [Nat.digitChar (n / 0x1000), Nat.digitChar (n / 0x100 % 0x10),
      Nat.digitChar (n / 0x10 % 0x10), Nat.digitChar (n % 0x10)] := by
  have hone : Text.inBase 16 1 (n / 16 / 16 / 16) = [Nat.digitChar (n / 16 / 16 / 16)] := by
    rw [Text.inBase, Nat.toDigits_of_lt_base (by omega)]
    rfl
  rw [Text.inBase_succ (by decide) (by decide), Text.inBase_succ (by decide) (by decide),
    Text.inBase_succ (by decide) (by decide), hone,
    show n / 16 / 16 / 16 = n / 0x1000 by omega, show n / 16 / 16 % 16 = n / 0x100 % 0x10 by omega]
  rfl

theorem ofBase?_inBase {n : Nat} (hn : n < 0x10000) :
    Text.ofBase? 16 (Text.inBase 16 4 n) = some n := by
  have hfour : 0x10 * (0x10 * (0x10 * (n / 0x1000) + n / 0x100 % 0x10) + n / 0x10 % 0x10) +
      n % 0x10 = n := by omega
  rw [inBase_sixteen_four hn]
  unfold Text.ofBase?
  simp only [List.foldlM_cons, List.foldlM_nil, bind, Option.bind,
    baseDigit?_digitChar (show n / 0x1000 < 16 by omega),
    baseDigit?_digitChar (show n / 0x100 % 0x10 < 16 by omega),
    baseDigit?_digitChar (show n / 0x10 % 0x10 < 16 by omega),
    baseDigit?_digitChar (show n % 0x10 < 16 by omega), show n / 0x1000 < 16 by omega,
    show n / 0x100 % 0x10 < 16 by omega, show n / 0x10 % 0x10 < 16 by omega,
    show n % 0x10 < 16 by omega, ↓reduceIte, Nat.mul_zero, Nat.zero_add, hfour]
  rfl

/-- An escape by code is read as its code if anything follows it. -/
theorem readUnit_codeEscape (start : Nat) {n : Nat} (hn : n < 0x10000) (next : Char)
    (rest : List Char) :
    readUnit start (codeEscape n ++ next :: rest) = .ok (n, next :: rest) := by
  have hdigits := ofBase?_inBase hn
  have hcode : readCode (Text.inBase 16 4 n ++ next :: rest) = some (n, next :: rest) := by
    rw [inBase_sixteen_four hn] at hdigits ⊢
    simp only [List.cons_append, List.nil_append, readCode, hdigits, Option.map_some]
  show readUnit start ('\\' :: 'u' :: (Text.inBase 16 4 n ++ next :: rest)) = _
  simp only [readUnit, hcode]

/-! ## Texts -/

/-- The codes as which a character is read: both halves if it was written by them. -/
def codesOf (plain : Bool) (c : Char) : List Nat :=
  if plain && 0x10000 ≤ c.toNat then
    [0xd800 + (c.toNat - 0x10000) / 0x400, 0xdc00 + (c.toNat - 0x10000) % 0x400]
  else [c.toNat]

/-- The codes as which a character is read stand for it. -/
theorem joinHalves_codesOf (plain : Bool) (c : Char) (ns : List Nat) :
    joinHalves (codesOf plain c ++ ns) = c :: joinHalves ns := by
  have hvalid : c.toNat < 0xd800 ∨ (0xdfff < c.toNat ∧ c.toNat < 0x110000) := c.valid
  have hofNat : Char.ofNat c.toNat = c := Char.ofNat_toNat c
  unfold codesOf
  split
  · rename_i hlarge
    rw [Bool.and_eq_true, decide_eq_true_eq] at hlarge
    have hhigh : isHighHalf (0xd800 + (c.toNat - 0x10000) / 0x400) = true := by
      simp only [isHighHalf, Bool.and_eq_true, decide_eq_true_eq]
      omega
    have hlow : isLowHalf (0xdc00 + (c.toNat - 0x10000) % 0x400) = true := by
      simp only [isLowHalf, Bool.and_eq_true, decide_eq_true_eq]
      omega
    rw [List.cons_append, List.singleton_append, joinHalves, hhigh, hlow, Bool.and_self,
      if_pos rfl, show 0x10000 + (0xd800 + (c.toNat - 0x10000) / 0x400 - 0xd800) * 0x400 +
        (0xdc00 + (c.toNat - 0x10000) % 0x400 - 0xdc00) = c.toNat by omega, hofNat]
  · have hhigh : isHighHalf c.toNat = false := by
      simp only [isHighHalf, Bool.and_eq_false_iff, decide_eq_false_iff_not]
      omega
    have hlow : isLowHalf c.toNat = false := by
      simp only [isLowHalf, Bool.and_eq_false_iff, decide_eq_false_iff_not]
      omega
    cases ns with
    | nil => simp [joinHalves, hhigh, hlow, hofNat]
    | cons m ns => simp [joinHalves, hhigh, hlow, hofNat]

theorem joinHalves_flatMap_codesOf (plain : Bool) (cs : List Char) :
    joinHalves (cs.flatMap (codesOf plain)) = cs := by
  induction cs with
  | nil => rfl
  | cons c cs ih => rw [List.flatMap_cons, joinHalves_codesOf, ih]

theorem readUnits_succ {start bound n : Nat} {cs rest tail : List Char} {ns : List Nat}
    (hhead : cs.head? ≠ some '"') (hunit : readUnit start cs = .ok (n, rest))
    (hrest : readUnits start bound rest = .ok (ns, tail)) :
    readUnits start (bound + 1) cs = .ok (n :: ns, tail) := by
  rw [readUnits]
  · simp only [hunit, hrest, bind, Except.bind]
    rfl
  · rintro rest rfl
    exact hhead rfl

/-- A character is written by a one-letter escape, by its code, or as it stands. -/
theorem writeChar_cases (plain : Bool) (c : Char) :
    (∃ e, writeChar plain c = ['\\', e] ∧ letterEscape? e = some c ∧ e ≠ 'u' ∧
      c.toNat < 0x10000) ∨
    (writeChar plain c = codeEscapes c ∧ (c.toNat < 0x10000 ∨ plain = true)) ∨
    (writeChar plain c = [c] ∧ c ≠ '"' ∧ c ≠ '\\' ∧ 0x20 ≤ c.toNat ∧
      (plain = true → c.toNat < 0x10000)) := by
  by_cases hquote : c = '"'
  · exact .inl ⟨'"', by subst hquote; decide +revert⟩
  by_cases hslash : c = '\\'
  · exact .inl ⟨'\\', by subst hslash; decide +revert⟩
  by_cases hn : c = '\n'
  · exact .inl ⟨'n', by subst hn; decide +revert⟩
  by_cases hr : c = '\r'
  · exact .inl ⟨'r', by subst hr; decide +revert⟩
  by_cases ht : c = '\t'
  · exact .inl ⟨'t', by subst ht; decide +revert⟩
  by_cases hb : c = '\x08'
  · exact .inl ⟨'b', by subst hb; decide +revert⟩
  by_cases hf : c = '\x0c'
  · exact .inl ⟨'f', by subst hf; decide +revert⟩
  refine .inr ?_
  simp only [writeChar, if_neg hquote, if_neg hslash, if_neg hn, if_neg hr, if_neg ht, if_neg hb,
    if_neg hf, Bool.or_eq_true, Bool.and_eq_true, decide_eq_true_eq]
  by_cases hcode : c.toNat < 0x20 ∨ plain = true ∧ 0x7e < c.toNat
  · rw [if_pos hcode]
    refine .inl ⟨rfl, ?_⟩
    rcases hcode with hlow | ⟨hplain, -⟩
    · exact .inl (by omega)
    · exact .inr hplain
  · rw [if_neg hcode]
    refine .inr ⟨rfl, hquote, hslash, by omega, ?_⟩
    intro hplain
    have hlow : ¬ 0x7e < c.toNat := fun hlow => hcode (.inr ⟨hplain, hlow⟩)
    omega

theorem codesOf_eq_singleton {plain : Bool} {c : Char} (hc : plain = true → c.toNat < 0x10000) :
    codesOf plain c = [c.toNat] := by
  rw [codesOf, if_neg]
  rw [Bool.and_eq_true, decide_eq_true_eq]
  rintro ⟨hplain, hlarge⟩
  exact absurd (hc hplain) (by omega)

/-- A written character is read as its codes if anything follows it. -/
theorem readUnits_writeChar (plain : Bool) (c : Char) {start bound : Nat} {next : Char}
    {rest tail : List Char} {ns : List Nat}
    (hrest : readUnits start bound (next :: rest) = .ok (ns, tail)) :
    readUnits start (bound + (codesOf plain c).length) (writeChar plain c ++ next :: rest) =
      .ok (codesOf plain c ++ ns, tail) := by
  rcases writeChar_cases plain c with ⟨e, heq, hletter, hu, hc⟩ | ⟨heq, hc⟩ |
    ⟨heq, hquote, hslash, hlow, hc⟩
  · rw [heq, codesOf_eq_singleton fun _ => hc]
    refine readUnits_succ (by simp) ?_ hrest
    show readUnit start ('\\' :: e :: next :: rest) = _
    rw [readUnit, hletter]
    exact hu
  · rw [heq, codeEscapes]
    by_cases hsmall : c.toNat < 0x10000
    · rw [if_pos hsmall, codesOf_eq_singleton fun _ => hsmall]
      exact readUnits_succ (by simp [codeEscape]) (readUnit_codeEscape start hsmall next rest) hrest
    · have hplain : plain = true := hc.resolve_left hsmall
      have hvalid : c.toNat < 0xd800 ∨ (0xdfff < c.toNat ∧ c.toNat < 0x110000) := c.valid
      have hcodes : codesOf plain c =
          [0xd800 + (c.toNat - 0x10000) / 0x400, 0xdc00 + (c.toNat - 0x10000) % 0x400] := by
        rw [codesOf, hplain, if_pos]
        simpa using hsmall
      rw [if_neg hsmall, hcodes, List.append_assoc]
      have hlow : readUnits start (bound + 1)
          (codeEscape (0xdc00 + (c.toNat - 0x10000) % 0x400) ++ next :: rest) =
            .ok ((0xdc00 + (c.toNat - 0x10000) % 0x400) :: ns, tail) :=
        readUnits_succ (by simp [codeEscape]) (readUnit_codeEscape start (by omega) next rest) hrest
      exact readUnits_succ (by simp [codeEscape]) (readUnit_codeEscape start (by omega) _ _) hlow
  · rw [heq, codesOf_eq_singleton hc]
    refine readUnits_succ (by simpa using hquote) ?_ hrest
    show readUnit start (c :: next :: rest) = _
    rw [readUnit, if_neg (by omega)]
    · simp [hslash]
    · simp [hslash]
    · simp [hslash]

theorem two_le_length_codeEscape (n : Nat) : 2 ≤ (codeEscape n).length := by
  unfold codeEscape
  simp

theorem length_codesOf_le (plain : Bool) (c : Char) :
    (codesOf plain c).length ≤ (writeChar plain c).length := by
  have hcodes : (codesOf plain c).length ≤ 2 := by
    unfold codesOf
    split <;> simp
  rcases writeChar_cases plain c with ⟨e, heq, -⟩ | ⟨heq, -⟩ | ⟨heq, -, -, -, hc⟩
  · rw [heq]
    exact hcodes
  · rw [heq, codeEscapes]
    split
    · exact Nat.le_trans hcodes (two_le_length_codeEscape _)
    · rw [List.length_append]
      have hfirst := two_le_length_codeEscape (0xd800 + (c.toNat - 0x10000) / 0x400)
      omega
  · rw [heq, codesOf_eq_singleton hc]
    simp

theorem readUnits_flatMap_writeChar (plain : Bool) (cs : List Char) {start bound : Nat}
    {rest : List Char} (hbound : (cs.flatMap (writeChar plain)).length < bound) :
    readUnits start bound (cs.flatMap (writeChar plain) ++ '"' :: rest) =
      .ok (cs.flatMap (codesOf plain), rest) := by
  induction cs generalizing bound with
  | nil =>
    obtain ⟨bound, rfl⟩ := Nat.exists_eq_add_of_lt hbound
    rw [show (([] : List Char).flatMap (writeChar plain)).length + bound + 1 = bound + 1 by simp]
    rfl
  | cons c cs ih =>
    -- The bound counts codes, of which a character has no more than it was written with.
    have hlength := length_codesOf_le plain c
    rw [List.flatMap_cons, List.length_append] at hbound
    have hrest := @ih (bound - (codesOf plain c).length) (by omega)
    rw [List.flatMap_cons, List.flatMap_cons, List.append_assoc,
      show bound = bound - (codesOf plain c).length + (codesOf plain c).length by omega]
    cases htail : cs.flatMap (writeChar plain) ++ '"' :: rest with
    | nil => simp at htail
    | cons next tail =>
      rw [htail] at hrest
      exact readUnits_writeChar plain c hrest

theorem writeText_append (plain : Bool) (s : String) (rest : List Char) :
    writeText plain s ++ rest = '"' :: (s.toList.flatMap (writeChar plain) ++ '"' :: rest) := by
  rw [writeText, List.append_assoc, List.cons_append, List.singleton_append]

/-- Reading a text undoes its writing, whatever follows. -/
theorem readText_flatMap_writeChar (plain : Bool) (s : String) (rest : List Char) :
    readText (s.toList.flatMap (writeChar plain) ++ '"' :: rest) = .ok (s, rest) := by
  have hunits : ∀ start, readUnits start
      ((s.toList.flatMap (writeChar plain) ++ '"' :: rest).length + 1)
      (s.toList.flatMap (writeChar plain) ++ '"' :: rest) =
        .ok (s.toList.flatMap (codesOf plain), rest) := by
    intro start
    refine readUnits_flatMap_writeChar plain s.toList ?_
    rw [List.length_append]
    omega
  rw [readText, hunits]
  show Except.ok (String.ofList (joinHalves (s.toList.flatMap (codesOf plain))), rest) = _
  rw [joinHalves_flatMap_codesOf, String.ofList_toList]

/-! ## Numbers -/

/-- What may stand behind a number: no character with which it would go on. -/
def endsNumber : List Char → Bool
  | [] => true
  | c :: _ => !Text.isPlainDigit c && c != '.' && c != 'e' && c != 'E'

theorem readTail_of_endsNumber (negative : Bool) (whole : List Char) {rest : List Char}
    (hrest : endsNumber rest = true) :
    readTail negative whole rest =
      (.int (Binary64.signed negative (Text.ofPlainDigits whole)), rest) := by
  have hnone : readFraction rest = none ∧ readExponent rest = none := by
    cases rest with
    | nil => exact ⟨rfl, rfl⟩
    | cons c rest =>
      simp only [endsNumber, Bool.and_eq_true, Bool.not_eq_true', bne_iff_ne, ne_eq] at hrest
      obtain ⟨⟨⟨-, hpoint⟩, hsmall⟩, hlarge⟩ := hrest
      constructor
      · rw [readFraction]
        rintro rest heq
        exact hpoint (List.cons.inj heq).1
      · simp [readExponent, hsmall, hlarge]
  rw [readTail, hnone.1, hnone.2]

theorem spanDigits_append {ds rest : List Char} (hds : ∀ c ∈ ds, Text.isPlainDigit c = true)
    (hrest : endsNumber rest = true) : spanDigits (ds ++ rest) = (ds, rest) := by
  have hhead : ∀ c ∈ rest.head?, ¬ Text.isPlainDigit c = true := by
    cases rest with
    | nil => simp
    | cons c rest =>
      simp only [endsNumber, Bool.and_eq_true, Bool.not_eq_true'] at hrest
      simp [hrest.1.1.1]
  rw [spanDigits, List.takeWhile_append_of_pos hds, List.dropWhile_append_of_pos hds]
  cases rest with
  | nil => simp
  | cons c rest =>
    rw [List.takeWhile_cons_of_neg (hhead c rfl), List.dropWhile_cons_of_neg (hhead c rfl),
      List.append_nil]

/-- The digits of a number are read as the number. -/
theorem readUnsigned_toDigits (negative : Bool) (n : Nat) {rest : List Char}
    (hrest : endsNumber rest = true) :
    readUnsigned negative (Nat.toDigits 10 n ++ rest) =
      some (.int (Binary64.signed negative n), rest) := by
  by_cases hn : n = 0
  · subst hn
    show some (readTail negative ['0'] rest) = _
    rw [readTail_of_endsNumber negative _ hrest]
    rfl
  · have hspan : spanDigits (Nat.toDigits 10 n ++ rest) = (Nat.toDigits 10 n, rest) :=
      spanDigits_append (fun c hc => Text.isPlainDigit_of_mem_toDigits hc) hrest
    have hne : Nat.toDigits 10 n ≠ [] := Nat.toDigits_ne_nil
    rw [readUnsigned]
    · rw [hspan]
      simp only [List.isEmpty_iff, hne, if_false]
      rw [readTail_of_endsNumber negative _ hrest, Text.ofPlainDigits_toDigits]
    · intro tail heq
      have hzero := Text.head?_toDigits_ne_zero hn
      cases hdigits : Nat.toDigits 10 n with
      | nil => exact hne hdigits
      | cons d ds =>
        rw [hdigits] at heq hzero
        rw [List.cons_append] at heq
        exact hzero (by rw [(List.cons.inj heq).1]; rfl)

/-! ## Words -/

/-- No word starts with a digit, and none goes on with a digit behind a minus sign. -/
theorem readWord_of_isPlainDigit {d : Char} (hd : Text.isPlainDigit d = true) (rest : List Char) :
    readWord (d :: rest) = none ∧ readWord ('-' :: d :: rest) = none := by
  have hne : ∀ w, Text.isPlainDigit w = false → ¬ w = d := by
    rintro w hw rfl
    rw [hd] at hw
    exact Bool.noConfusion hw
  have hn := hne 'n' rfl
  have ht := hne 't' rfl
  have hf := hne 'f' rfl
  have hnan := hne 'N' rfl
  have hinf := hne 'I' rfl
  have hminus := hne '-' rfl
  constructor <;> simp [readWord, words, dropWord?, hn, ht, hf, hnan, hinf, hminus]

/-- Reading an integer undoes its writing if no more of a number follows. -/
theorem readScalar_toString (n : Int) {rest : List Char} (hrest : endsNumber rest = true) :
    readScalar ((toString n).toList ++ rest) = .ok (.int n, rest) := by
  cases n with
  | ofNat m =>
    have hread := readUnsigned_toDigits false m hrest
    obtain ⟨d, ds, heq, hd⟩ := Text.exists_toDigits_eq_cons m
    rw [Int.ofNat_eq_natCast, Text.toList_toString_ofNat]
    rw [heq, List.cons_append] at hread ⊢
    have hnumber : readNumber (d :: (ds ++ rest)) = readUnsigned false (d :: (ds ++ rest)) := by
      rw [readNumber]
      intro rest heq
      rw [(List.cons.inj heq).1] at hd
      exact absurd hd (by decide)
    rw [readScalar, (readWord_of_isPlainDigit hd _).1, hnumber, hread]
    rfl
  | negSucc m =>
    have hread := readUnsigned_toDigits true (m + 1) hrest
    obtain ⟨d, ds, heq, hd⟩ := Text.exists_toDigits_eq_cons (m + 1)
    rw [Text.toList_toString_negSucc]
    rw [heq, List.cons_append] at hread
    rw [heq, List.cons_append, List.cons_append, readScalar, (readWord_of_isPlainDigit hd _).2,
      readNumber, hread]
    rfl

end AudioPlan.Json
