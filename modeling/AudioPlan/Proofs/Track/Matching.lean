import AudioPlan.Proofs.Regex.Compilation
import AudioPlan.Proofs.Rule.Canonical
import AudioPlan.Track.Matching
import Mathlib.Order.Bounds.Basic
import Mathlib.Tactic.MkIffOfInductiveProp

/-!
# What matching decides

`Criteria.Accepts` is what criteria say of the facts of a track.  For a track that shows its facts,
matching comes to an end and decides it (`meets_decides`): the parts are tried in order, and each of
them decides its own part.  The search through the rules stops at the first rule that accepts
(`firstMatch_cases`), and whatever the track is like, a search that comes to an end has found a rule
that matches or has tried all of them (`Track.findRule_eq_ok`), and a match has found the pattern of
the criteria in the title (`Track.exists_search_of_meets`).
-/

namespace AudioPlan

/-! ## Tracks and their facts -/

namespace Track

/-- What is known of a track, each fact of its own kind. -/
structure Facts where
  codec : Option String
  channels : Int
  bitRate : Option Int
  language : String
  title : String
  flags : List (String × Int)

/-- The name of the codec in lower case, empty if there is none. -/
def Facts.codecName (f : Facts) : String :=
  Text.lowerText (f.codec.getD "")

/-- The language, undetermined if there is none. -/
def Facts.languageOrUnd (f : Facts) : String :=
  if f.language = "" then "und" else f.language

/-- The track shows these facts. -/
structure Shows (t : Track) (f : Facts) : Prop where
  codec : t.codec = .known f.codec
  channels : t.channels = .known f.channels
  bitRate : t.bitRate = .known f.bitRate
  language : t.language = .known f.language
  title : t.title = .known f.title
  flags : t.disposition = .known f.flags

end Track

/-! ## The meaning of criteria -/

/-- A number stands to the bound as the condition asks. -/
def Condition.Holds (c : Condition) (n : Int) : Prop :=
  match c.comparison with
  | .equal => n = c.bound
  | .less => n < c.bound
  | .atMost => n ≤ c.bound
  | .greater => n > c.bound
  | .atLeast => n ≥ c.bound

theorem Condition.holds_iff (c : Condition) (n : Int) : c.holds n = true ↔ c.Holds n := by
  obtain ⟨comparison, bound⟩ := c
  cases comparison <;> simp [holds, Holds]

/-- Criteria accept a track if each part of them does.  A number that is not known meets no
condition. -/
@[mk_iff]
structure Criteria.Accepts (f : Track.Facts) (c : Criteria) : Prop where
  codecs : c.codecs.accepts f.codecName = true
  channels : ∀ x ∈ c.channels, x.Holds f.channels
  bitRate : ∀ x ∈ c.bitRate, ∃ n, f.bitRate = some n ∧ x.Holds n
  languages : ∀ languages, c.languages = some languages → f.languageOrUnd ∈ languages
  flags : ∀ flags, c.dispositions = some flags →
    ∀ flag ∈ flags, f.flags.lookup flag.1 = some (flag.2.toNat : Int)
  title : ∀ p, c.title = some p → ∃ r, Regex.compile p.pattern (!p.caseSensitive) = .ok r ∧
    (r.search f.title).isSome = true

/-! ## Computations that decide -/

/-- A computation comes to an end and tells whether something holds. -/
def Decides (x : Except Fault Bool) (P : Prop) : Prop :=
  ∃ b, x = .ok b ∧ (b = true ↔ P)

namespace Decides

variable {x y : Except Fault Bool} {P Q : Prop}

theorem of_bool {b : Bool} (h : b = true ↔ P) : Decides (.ok b) P :=
  ⟨b, rfl, h⟩

theorem congr (h : Decides x P) (hPQ : P ↔ Q) : Decides x Q := by
  obtain ⟨b, hb, hP⟩ := h
  exact ⟨b, hb, hP.trans hPQ⟩

/-- Two tests of which the second is made only if the first is passed. -/
theorem guard (hx : Decides x P) (hy : Decides y Q) :
    Decides (do if ← x then y else pure false) (P ∧ Q) := by
  obtain ⟨b, rfl, hP⟩ := hx
  cases b with
  | true => exact hy.congr (by simp [← hP])
  | false => exact ⟨false, rfl, by simp [← hP]⟩

/-- A test that is made only if there is something to test. -/
theorem guardOption {α : Type} {o : Option α} {f : α → Except Fault Bool} {P : α → Prop}
    (hf : ∀ a, o = some a → Decides (f a) (P a)) (hy : Decides y Q) :
    Decides (o.elim y fun a => do if ← f a then y else pure false)
      ((∀ a, o = some a → P a) ∧ Q) := by
  cases o with
  | none => exact hy.congr (by simp)
  | some a => exact ((hf a rfl).guard hy).congr (by simp)

end Decides

/-! ## The parts of criteria -/

theorem meetsAll_known (number : Option Int) (conditions : List Condition) :
    meetsAll (.known number) conditions =
      .ok (conditions.all fun c => number.any fun n => c.holds n) := by
  cases conditions with
  | nil => rfl
  | cons c rest =>
    cases number with
    | none => rfl
    | some n => rfl

theorem meetsAll_decides (number : Option Int) (conditions : List Condition) :
    Decides (meetsAll (.known number) conditions)
      (∀ x ∈ conditions, ∃ n, number = some n ∧ x.Holds n) := by
  rw [meetsAll_known]
  refine .of_bool ?_
  rw [List.all_eq_true]
  refine forall₂_congr fun c _ => ?_
  rw [Option.any_eq_true]
  exact exists_congr fun n => and_congr_right fun _ => c.holds_iff n

section Meets

variable {t : Track} {f : Track.Facts} (ht : t.Shows f)

include ht

theorem meetsCodecs_decides (selector : Selector) :
    Decides (t.meetsCodecs selector) (selector.accepts f.codecName = true) := by
  have hcodec : t.codecText = .ok (f.codec.getD "") := by
    rw [Track.codecText, ht.codec]
  cases selector with
  | all => exact .of_bool Iff.rfl
  | anyOf codecs =>
    rw [Track.meetsCodecs, hcodec]
    · exact .of_bool Iff.rfl
    · simp
  | allExcept codec =>
    rw [Track.meetsCodecs, hcodec]
    · exact .of_bool Iff.rfl
    · simp

theorem meetsLanguages_iff (languages : List String) :
    t.meetsLanguages languages = true ↔ f.languageOrUnd ∈ languages := by
  have hlanguage : t.languageOrUnd = .known f.languageOrUnd := by
    simp only [Track.languageOrUnd, ht.language, Track.Facts.languageOrUnd, String.isEmpty_iff]
  simp only [Track.meetsLanguages, hlanguage, decide_eq_true_eq]

theorem hasFlag_decides (flag : String) (b : Bool) :
    Decides (t.hasFlag flag b) (f.flags.lookup flag = some (b.toNat : Int)) := by
  rw [Track.hasFlag, ht.flags]
  exact .of_bool beq_iff_eq

theorem meetsDispositions_decides (flags : List (String × Bool)) :
    Decides (t.meetsDispositions flags)
      (∀ flag ∈ flags, f.flags.lookup flag.1 = some (flag.2.toNat : Int)) := by
  induction flags with
  | nil => exact ⟨true, rfl, by simp⟩
  | cons flag rest ih =>
    rw [List.forall_mem_cons]
    exact (hasFlag_decides ht flag.1 flag.2).guard ih

/-- The pattern compiles in either regard to case, so the search comes to an end. -/
theorem searchTitle_eq_ok {p : TitlePattern} (hp : ∃ r, Regex.compile p.pattern false = .ok r) :
    ∃ found, t.searchTitle p = .ok found ∧ (found.isSome = true ↔
      ∃ r, Regex.compile p.pattern (!p.caseSensitive) = .ok r ∧
        (r.search f.title).isSome = true) := by
  obtain ⟨q, hq⟩ := hp
  obtain ⟨r, hr⟩ := Regex.exists_compile_of_compile hq (!p.caseSensitive)
  have htitle : t.titleText = .ok f.title := by
    rw [Track.titleText, ht.title]
  refine ⟨r.search f.title, ?_, ?_⟩
  · rw [Track.searchTitle, TitlePattern.regex, hr, htitle]
    rfl
  · simp [hr]

/-- Matching comes to an end for a track that shows its facts, and tells whether the criteria accept
them. -/
theorem meets_decides {c : Criteria} (hc : c.Normal) : Decides (t.meets c) (c.Accepts f) := by
  have hcodecs := meetsCodecs_decides ht c.codecs
  have hchannels : Decides (meetsAll t.channels.present c.channels)
      (∀ x ∈ c.channels, x.Holds f.channels) := by
    rw [ht.channels]
    exact (meetsAll_decides (some f.channels) c.channels).congr (by simp)
  have hbitRate : Decides (meetsAll t.bitRate c.bitRate)
      (∀ x ∈ c.bitRate, ∃ n, f.bitRate = some n ∧ x.Holds n) := by
    rw [ht.bitRate]
    exact meetsAll_decides f.bitRate c.bitRate
  have hlanguages : ∀ languages, c.languages = some languages →
      Decides (.ok (t.meetsLanguages languages)) (f.languageOrUnd ∈ languages) := fun languages _ =>
    .of_bool (meetsLanguages_iff ht languages)
  have hflags : ∀ flags, c.dispositions = some flags → Decides (t.meetsDispositions flags)
      (∀ flag ∈ flags, f.flags.lookup flag.1 = some (flag.2.toNat : Int)) := fun flags _ =>
    meetsDispositions_decides ht flags
  have htitle : Decides (c.title.elim (pure true) fun p => do
      if (← t.searchTitle p).isSome then pure true else pure false)
      (∀ p, c.title = some p → ∃ r, Regex.compile p.pattern (!p.caseSensitive) = .ok r ∧
        (r.search f.title).isSome = true) := by
    cases hp : c.title with
    | none => exact ⟨true, rfl, by simp⟩
    | some p =>
      obtain ⟨found, hfound, hiff⟩ := searchTitle_eq_ok ht (hc.title p hp)
      refine ⟨found.isSome, ?_, by simp [hiff]⟩
      rw [Option.elim_some, hfound]
      cases found <;> rfl
  have hrest := Decides.guardOption hlanguages (Decides.guardOption hflags htitle)
  rw [Criteria.accepts_iff]
  unfold Track.meets
  refine hcodecs.guard (hchannels.guard (hbitRate.guard ?_))
  -- Which of the last three parts are tested depends on the criteria alone.  With that known, the
  -- rest of the computation is the nested elimination of `hrest`.
  clear hcodecs hchannels hbitRate hlanguages hflags htitle hc
  obtain ⟨_, _, _, languages, dispositions, title⟩ := c
  cases languages <;> cases dispositions <;> cases title <;> exact hrest

end Meets

/-! ## What a match has passed -/

/-- A test that is passed before the rest was passed, and so was the rest. -/
theorem guard_eq_true {x y : Except Fault Bool}
    (h : (do if ← x then y else pure false) = .ok true) : x = .ok true ∧ y = .ok true := by
  obtain ⟨b, hb, h⟩ := bind_eq_ok.1 h
  cases b with
  | true => exact ⟨hb, h⟩
  | false => cases h

/-- The pattern of criteria that a track meets, whatever it shows, is found in its title. -/
theorem Track.exists_search_of_meets {t : Track} {c : Criteria} {p : TitlePattern}
    (h : t.meets c = .ok true) (hp : c.title = some p) :
    ∃ r title m, p.regex = .ok r ∧ t.titleText = .ok title ∧ r.search title = some m := by
  obtain ⟨codecs, channels, bitRate, languages, dispositions, title⟩ := c
  cases hp
  unfold meets at h
  replace h := (guard_eq_true (guard_eq_true (guard_eq_true h).2).2).2
  -- The title comes last, behind tests of languages and flags that are made only if asked for.
  have htitle : (do if (← t.searchTitle p).isSome then pure true else pure false :
      Except Fault Bool) = .ok true := by
    cases languages with
    | none =>
      cases dispositions with
      | none => exact h
      | some flags => exact (guard_eq_true h).2
    | some languages =>
      have hlanguages := fun y => @guard_eq_true (.ok (t.meetsLanguages languages)) y
      cases dispositions with
      | none => exact (hlanguages _ h).2
      | some flags => exact (guard_eq_true (hlanguages _ h).2).2
  obtain ⟨found, hsearch, h⟩ := bind_eq_ok.1 htitle
  obtain ⟨r, hr, hsearch⟩ := bind_eq_ok.1 hsearch
  obtain ⟨text, htext, hsearch⟩ := bind_eq_ok.1 hsearch
  cases hsearch
  obtain ⟨m, hm⟩ : ∃ m, r.search text = some m := by
    cases hfound : r.search text with
    | none =>
      rw [hfound] at h
      cases h
    | some m => exact ⟨m, rfl⟩
  exact ⟨r, text, m, hr, htext, hm⟩

/-! ## The first rule that accepts -/

section First

variable {α : Type} {accepts : α → Prop}

theorem isLeast_zero {a : α} {as : List α} (ha : accepts a) :
    IsLeast {i | ∃ b, (a :: as)[i]? = some b ∧ accepts b} 0 :=
  ⟨⟨a, rfl, ha⟩, fun i _ => Nat.zero_le i⟩

/-- In front of what accepts there may stand more that does not. -/
theorem isLeast_succ {a : α} {as : List α} (ha : ¬ accepts a) {i : Nat}
    (hi : IsLeast {i | ∃ b, as[i]? = some b ∧ accepts b} i) :
    IsLeast {i | ∃ b, (a :: as)[i]? = some b ∧ accepts b} (i + 1) := by
  obtain ⟨⟨b, hb, hab⟩, hleast⟩ := hi
  refine ⟨⟨b, by rw [List.getElem?_cons_succ]; exact hb, hab⟩, ?_⟩
  rintro j ⟨c, hc, hac⟩
  cases j with
  | zero =>
    cases hc
    exact absurd hac ha
  | succ j =>
    rw [List.getElem?_cons_succ] at hc
    exact Nat.succ_le_succ (hleast ⟨c, hc, hac⟩)

/-- The search takes the rule at the least position at which matching is successful, if there is
one.  What matching decides for each rule is given beside it. -/
theorem firstMatch_cases {t : Track} {as : List α} {rules : List Rule}
    (h : List.Forall₂ (fun a r => Decides (t.meets r.criteria) (accepts a)) as rules)
    (position : Nat) :
    (∃ i r, IsLeast {i | ∃ a, as[i]? = some a ∧ accepts a} i ∧ rules[i]? = some r ∧
      t.firstMatch position rules = .ok (some (position + i, r))) ∨
    ((∀ a ∈ as, ¬ accepts a) ∧ t.firstMatch position rules = .ok none) := by
  induction h generalizing position with
  | nil => exact .inr ⟨by simp, rfl⟩
  | @cons a r as rules har _ ih =>
    obtain ⟨b, hb, hiff⟩ := har
    rw [Track.firstMatch, hb]
    cases b with
    | true => exact .inl ⟨0, r, isLeast_zero (hiff.1 rfl), rfl, rfl⟩
    | false =>
      have ha : ¬ accepts a := fun ha => Bool.false_ne_true (hiff.2 ha)
      rcases ih (position + 1) with ⟨i, s, hi, hs, hfirst⟩ | ⟨hnone, hfirst⟩
      · refine .inl ⟨i + 1, s, isLeast_succ ha hi, hs, ?_⟩
        rw [← Nat.add_assoc, Nat.add_right_comm]
        exact hfirst
      · exact .inr ⟨List.forall_mem_cons.2 ⟨ha, hnone⟩, hfirst⟩

end First

/-- What a search that comes to an end has found: a rule of those given that matches, or nothing
when none of them does. -/
theorem Track.firstMatch_eq_ok {t : Track} {position : Nat} {rules : List Rule}
    {found : Option (Nat × Rule)} (h : t.firstMatch position rules = .ok found) :
    (found = none ∧ ∀ rule ∈ rules, t.meets rule.criteria = .ok false) ∨
      ∃ i, ∃ rule ∈ rules, found = some (i, rule) ∧ t.meets rule.criteria = .ok true := by
  induction rules generalizing position with
  | nil =>
    cases h
    exact .inl ⟨rfl, by simp⟩
  | cons rule rest ih =>
    obtain ⟨matched, hmatched, h⟩ := bind_eq_ok.1 h
    cases matched with
    | true =>
      cases h
      exact .inr ⟨position, rule, List.mem_cons_self, rfl, hmatched⟩
    | false =>
      rcases ih h with ⟨hnone, hrest⟩ | ⟨i, other, hmem, hsome, hmeets⟩
      · exact .inl ⟨hnone, List.forall_mem_cons.2 ⟨hmatched, hrest⟩⟩
      · exact .inr ⟨i, other, List.mem_cons_of_mem rule hmem, hsome, hmeets⟩

theorem Track.findRule_eq_ok {t : Track} {rs : RuleSet} {found : Option Rule}
    (h : t.findRule rs = .ok found) :
    (found = none ∧ ∀ rule ∈ rs.rules, t.meets rule.criteria = .ok false) ∨
      ∃ rule ∈ rs.rules, found = some rule ∧ t.meets rule.criteria = .ok true := by
  obtain ⟨entry, hentry, h⟩ := bind_eq_ok.1 h
  cases h
  rcases Track.firstMatch_eq_ok hentry with ⟨rfl, hnone⟩ | ⟨i, rule, hmem, rfl, hmeets⟩
  · exact .inl ⟨rfl, hnone⟩
  · exact .inr ⟨rule, hmem, rfl, hmeets⟩

theorem Track.mem_of_findRule {t : Track} {rs : RuleSet} {rule : Rule}
    (h : t.findRule rs = .ok (some rule)) : rule ∈ rs.rules := by
  rcases Track.findRule_eq_ok h with ⟨hnone, -⟩ | ⟨_, hmem, hsome, -⟩
  · cases hnone
  · cases hsome
    exact hmem

end AudioPlan
