import AudioPlan.Regex.Matcher

/-!
# Groups are parts of the text

Matching moves forward through a text without changing it: every position that a match goes on from
is a position in the text that it started in, and not before the one it started at
(`Program.run_within`).  So every match that is found lies in the text that was searched, and the
text of each group is made of its characters (`findAll_groups`).

* `Matcher.Within` says of a way of matching that it stays within its text; `Matcher.Within.comp`
  joins two of them, and each kind of repetition has a lemma of its own.
* `Scans` is the scan through a text from left to right, without a bound on the number of matches.
  Every match brings it on, so the bound of `findAll` is never met (`scans_iff`).
-/

namespace AudioPlan.Regex

/-- The whole text that a position is in. -/
def Position.text (p : Position) : List Char :=
  p.before.reverse ++ p.after

/-- One position is in the same text as another and not before it. -/
structure Position.Reaches (p q : Position) : Prop where
  text_eq : q.text = p.text
  offset_le : p.offset ≤ q.offset

namespace Position.Reaches

variable {p q r : Position}

theorem refl (p : Position) : p.Reaches p :=
  ⟨rfl, Nat.le_refl _⟩

theorem trans (hpq : p.Reaches q) (hqr : q.Reaches r) : p.Reaches r :=
  ⟨hqr.text_eq.trans hpq.text_eq, Nat.le_trans hpq.offset_le hqr.offset_le⟩

/-- A position that is reached is still in the text. -/
theorem offset_le_length (h : p.Reaches q) : q.offset ≤ p.text.length := by
  rw [← h.text_eq, text, offset, List.length_append, List.length_reverse]
  exact Nat.le_add_right _ _

end Position.Reaches

/-- A way of matching goes on from positions in the same text only, and never back. -/
def Matcher.Within (m : Matcher) : Prop :=
  ∀ (next : Next) (p q : Position), m next p = some q → ∃ r, p.Reaches r ∧ next r = some q

namespace Matcher.Within

variable {m k : Matcher}

theorem comp (hm : m.Within) (hk : k.Within) : Within fun next => m (k next) := by
  intro next p q h
  obtain ⟨r, hr, hrest⟩ := hm _ p q h
  obtain ⟨r', hr', hnext⟩ := hk next r q hrest
  exact ⟨r', hr.trans hr', hnext⟩

/-- The position that is reached when nothing follows. -/
theorem reaches (hm : m.Within) {p q : Position} (h : m some p = some q) : p.Reaches q := by
  obtain ⟨r, hr, hsome⟩ := hm some p q h
  cases hsome
  exact hr

end Matcher.Within

namespace Position

theorem reaches_forward? {p q : Position} (h : p.forward? = some q) : p.Reaches q := by
  rw [forward?] at h
  split at h
  · rename_i c rest hafter
    cases h
    exact ⟨by simp [text, hafter], Nat.le_succ _⟩
  · exact nomatch h

theorem reaches_follow? {mode : CaseMode} {cs : List Char} {p q : Position}
    (h : follow? mode cs p = some q) : p.Reaches q := by
  induction cs generalizing p with
  | nil => cases h; exact .refl _
  | cons c rest ih =>
    rw [follow?] at h
    split at h
    · split at h
      · obtain ⟨r, hr, hq⟩ := Option.bind_eq_some_iff.1 h
        exact (reaches_forward? hr).trans (ih hq)
      · exact nomatch h
    · exact nomatch h

end Position

/-! ## Repetitions -/

section Rounds

variable {body : Matcher} (hbody : body.Within) (least : Nat) (most : Option Nat)
include hbody

theorem greedyRounds_within (fuel count : Nat) (last : Option Nat) :
    Matcher.Within fun next => greedyRounds body least most next fuel count last := by
  induction fuel generalizing count last with
  | zero => exact fun next p q h => ⟨p, .refl _, h⟩
  | succ fuel ih =>
    intro next p q h
    have hround := fun last => hbody.comp (ih (count + 1) last) next p q
    simp only [greedyRounds] at h
    split at h
    · exact hround last h
    · split at h
      · split at h
        · rename_i hsome
          exact hround _ (hsome.trans h)
        · exact ⟨p, .refl _, h⟩
      · exact ⟨p, .refl _, h⟩

theorem lazyRounds_within (fuel count : Nat) (last : Option Nat) :
    Matcher.Within fun next => lazyRounds body least most next fuel count last := by
  induction fuel generalizing count last with
  | zero => exact fun next p q h => ⟨p, .refl _, h⟩
  | succ fuel ih =>
    intro next p q h
    have hround := fun last => hbody.comp (ih (count + 1) last) next p q
    simp only [lazyRounds] at h
    split at h
    · exact hround last h
    · split at h
      · rename_i hsome
        exact ⟨p, .refl _, hsome.trans h⟩
      · split at h
        · exact hround _ h
        · exact nomatch h

theorem reaches_possessiveRounds {fuel count : Nat} {last : Option Nat} {p q : Position}
    (h : possessiveRounds body least most fuel count last p = some q) : p.Reaches q := by
  induction fuel generalizing count last p with
  | zero => cases h; exact .refl _
  | succ fuel ih =>
    rw [possessiveRounds] at h
    split at h
    · obtain ⟨r, hr, hrest⟩ := Option.bind_eq_some_iff.1 h
      exact (hbody.reaches hr).trans (ih hrest)
    · split at h
      · split at h
        · rename_i r hr
          exact (hbody.reaches hr).trans (ih h)
        · cases h; exact .refl _
      · cases h; exact .refl _

end Rounds

/-! ## Programs -/

/-- Whatever a program matches, it stays within the text. -/
theorem Program.run_within (program : Program) : Matcher.Within program.run := by
  induction program with
  | nothing => exact fun next p q h => ⟨p, .refl _, h⟩
  | one accepts =>
    intro next p q h
    simp only [run] at h
    split at h
    · split at h
      · obtain ⟨r, hr, hnext⟩ := Option.bind_eq_some_iff.1 h
        exact ⟨r, Position.reaches_forward? hr, hnext⟩
      · exact nomatch h
    · exact nomatch h
  | anchor a flags =>
    intro next p q h
    simp only [run] at h
    split at h
    · exact ⟨p, .refl _, h⟩
    · exact nomatch h
  | both first second ihFirst ihSecond => exact ihFirst.comp ihSecond
  | either first second ihFirst ihSecond =>
    intro next p q h
    simp only [run] at h
    split at h
    · rename_i hsome
      exact ihFirst next p q (hsome.trans h)
    · exact ihSecond next p q h
  | fail => exact fun next p q h => nomatch h
  | capture group body ih =>
    intro next p q h
    obtain ⟨r, hr, hnext⟩ := ih _ _ q h
    exact ⟨{ r with ends := run.put group r.offset r.ends }, ⟨hr.text_eq, hr.offset_le⟩, hnext⟩
  | atomic body ih =>
    intro next p q h
    obtain ⟨r, hr, hnext⟩ := Option.bind_eq_some_iff.1 h
    exact ⟨r, ih.reaches hr, hnext⟩
  | repeated greed least most body ih =>
    intro next p q h
    cases greed with
    | greedy => exact greedyRounds_within ih least most _ 0 none next p q h
    | lazy => exact lazyRounds_within ih least most _ 0 none next p q h
    | possessive =>
      obtain ⟨r, hr, hnext⟩ := Option.bind_eq_some_iff.1 h
      exact ⟨r, reaches_possessiveRounds ih least most hr, hnext⟩
  | look back negative body ih =>
    intro next p q h
    simp only [run] at h
    split at h
    · rename_i r _
      exact ⟨{ p with starts := r.starts, ends := r.ends }, ⟨rfl, Nat.le_refl _⟩, h⟩
    · exact ⟨p, .refl _, h⟩
    · exact nomatch h
  | sameAs group mode =>
    intro next p q h
    simp only [run] at h
    split at h
    · obtain ⟨r, hr, hnext⟩ := Option.bind_eq_some_iff.1 h
      exact ⟨r, Position.reaches_follow? hr, hnext⟩
    · exact nomatch h
  | ifGroup group present absent ihPresent ihAbsent =>
    intro next p q h
    simp only [run] at h
    split at h
    · exact ihPresent next p q h
    · exact ihAbsent next p q h

/-! ## Matches -/

theorem Position.slice_subset (p : Position) (first last : Nat) : p.slice first last ⊆ p.text :=
  fun _ hc => List.drop_subset first _ (List.take_subset (last - first) _ hc)

variable {r : Regex} {m : Match} {cs : List Char}

/-- A match lies in a text, and has a place for the text of each group. -/
structure Match.LiesIn (r : Regex) (cs : List Char) (m : Match) : Prop where
  first_le : m.first ≤ m.last
  last_le : m.last ≤ cs.length
  groups_length : m.groups.length = r.groups
  group : ∀ s, some s ∈ m.groups → s.toList ⊆ cs

/-- A match starts where it is looked for, and ends behind that place if it must not be empty. -/
theorem matchAt_eq_some {advancing : Bool} {p : Position} (h : matchAt r advancing p = some m) :
    m.LiesIn r p.text ∧ p.offset ≤ m.first ∧ (advancing = true → p.offset < m.last) := by
  rw [matchAt] at h
  obtain ⟨q, hq, hm⟩ := Option.bind_eq_some_iff.1 h
  cases hm
  obtain ⟨q', hreach, hend⟩ := r.program.run_within _ p q hq
  split at hend
  · exact nomatch hend
  · rename_i hadvance
    cases hend
    refine ⟨⟨hreach.offset_le, hreach.offset_le_length, by simp, ?_⟩, Nat.le_refl _, ?_⟩
    · intro s hs
      obtain ⟨n, -, hn⟩ := List.mem_map.1 hs
      obtain ⟨⟨first, last⟩, -, rfl⟩ := Option.map_eq_some_iff.1 hn
      rw [String.toList_ofList, ← hreach.text_eq]
      exact q.slice_subset first last
    · rintro rfl
      rw [Bool.true_and, beq_iff_eq] at hadvance
      exact Nat.lt_of_le_of_ne hreach.offset_le (Ne.symm hadvance)

/-- The first match from a place on starts there or behind it, and ends behind it if it must not be
empty there. -/
theorem searchFrom_eq_some {advancing : Bool} {before cs : List Char}
    (h : searchFrom r advancing before cs = some m) :
    m.LiesIn r (before.reverse ++ cs) ∧ before.length ≤ m.first ∧
      (advancing = true → before.length < m.last) := by
  induction cs generalizing advancing before with
  | nil => exact matchAt_eq_some h
  | cons c rest ih =>
    simp only [searchFrom] at h
    split at h
    · rename_i here hhere
      split at hhere
      · cases h
        exact matchAt_eq_some hhere
      · exact nomatch hhere
    · obtain ⟨hlies, hfirst, -⟩ := ih h
      rw [List.reverse_cons, List.append_assoc, List.singleton_append] at hlies
      exact ⟨hlies, Nat.le_of_succ_le hfirst, fun _ => Nat.lt_of_lt_of_le hfirst hlies.first_le⟩

/-! ## Scans -/

/-- The first match from an offset of a text on. -/
theorem searchFrom_offset {advancing : Bool} {offset : Nat} (hoffset : offset ≤ cs.length)
    (h : searchFrom r advancing (cs.take offset).reverse (cs.drop offset) = some m) :
    m.LiesIn r cs ∧ offset ≤ m.first ∧ (advancing = true → offset < m.last) := by
  have hfound := searchFrom_eq_some h
  rwa [List.reverse_reverse, List.take_append_drop, List.length_reverse, List.length_take,
    Nat.min_eq_left hoffset] at hfound

/-- A scan from an offset on finds these matches: each is the first one from the place where the one
before it ended, not empty there if that one was, and behind the last of them there is none. -/
inductive Scans (r : Regex) (cs : List Char) : (offset : Nat) → (advancing : Bool) →
    List Match → Prop
  | stop {offset : Nat} {advancing : Bool}
      (hnone : searchFrom r advancing (cs.take offset).reverse (cs.drop offset) = none) :
      Scans r cs offset advancing []
  | next {offset : Nat} {advancing : Bool} {m : Match} {rest : List Match}
      (hfirst : searchFrom r advancing (cs.take offset).reverse (cs.drop offset) = some m)
      (hrest : Scans r cs m.last (m.first == m.last) rest) :
      Scans r cs offset advancing (m :: rest)

namespace Scans

variable {offset : Nat} {advancing : Bool} {found : List Match}

theorem unique (h : Scans r cs offset advancing found) {others : List Match}
    (hothers : Scans r cs offset advancing others) : found = others := by
  induction h generalizing others with
  | stop hnone =>
    cases hothers with
    | stop => rfl
    | next hfirst => exact nomatch hnone.symm.trans hfirst
  | next hfirst _ ih =>
    cases hothers with
    | stop hnone => exact nomatch hnone.symm.trans hfirst
    | next hfirst' hrest =>
      cases hfirst.symm.trans hfirst'
      rw [ih hrest]

theorem liesIn (h : Scans r cs offset advancing found) (hoffset : offset ≤ cs.length) :
    ∀ m ∈ found, m.LiesIn r cs := by
  induction h with
  | stop => exact nofun
  | next hfirst _ ih =>
    have hlies := (searchFrom_offset hoffset hfirst).1
    exact List.forall_mem_cons.2 ⟨hlies, ih hlies.last_le⟩

theorem head?_eq (h : Scans r cs offset advancing found) :
    found.head? = searchFrom r advancing (cs.take offset).reverse (cs.drop offset) := by
  cases h with
  | stop hnone => exact hnone.symm
  | next hfirst => exact hfirst.symm

end Scans

/-- Every match brings the scan on: it goes forward, or it may not be empty at the place next. -/
theorem matchesFrom_scans {bound offset : Nat} {advancing : Bool} (hoffset : offset ≤ cs.length)
    (hbound : 2 * (cs.length - offset) + (if advancing then 0 else 1) < bound) :
    Scans r cs offset advancing (matchesFrom r cs bound offset advancing) := by
  induction bound generalizing offset advancing with
  | zero => exact absurd hbound (Nat.not_lt_zero _)
  | succ bound ih =>
    rw [matchesFrom]
    split
    · rename_i m hm
      obtain ⟨hlies, hfirst, hadvance⟩ := searchFrom_offset hoffset hm
      have hle := hlies.first_le
      have hlast := hlies.last_le
      refine .next hm (ih hlast ?_)
      by_cases hempty : m.first = m.last
      · rw [hempty, beq_self_eq_true, if_pos rfl]
        cases advancing with
        | true =>
          have hforward := hadvance rfl
          rw [if_pos rfl] at hbound
          omega
        | false =>
          rw [if_neg Bool.false_ne_true] at hbound
          omega
      · rw [beq_false_of_ne hempty, if_neg Bool.false_ne_true]
        omega
    · exact .stop ‹_›

theorem findAll_scans (r : Regex) (text : String) :
    Scans r text.toList 0 false (r.findAll text) :=
  matchesFrom_scans (Nat.zero_le _) (by simp)

/-- All the matches in a text are those that a scan finds in it. -/
theorem scans_iff {text : String} {found : List Match} :
    Scans r text.toList 0 false found ↔ found = r.findAll text := by
  refine ⟨fun h => h.unique (findAll_scans r text), ?_⟩
  rintro rfl
  exact findAll_scans r text

theorem findAll_liesIn {text : String} (h : m ∈ r.findAll text) : m.LiesIn r text.toList :=
  (findAll_scans r text).liesIn (Nat.zero_le _) m h

/-- The groups of a match are made of characters of the text that was searched. -/
theorem findAll_groups {text : String} (h : m ∈ r.findAll text) :
    ∀ s, some s ∈ m.groups → s.toList ⊆ text.toList :=
  (findAll_liesIn h).group

/-- The first match of all is the one that a search finds. -/
theorem head?_findAll (r : Regex) (text : String) : (r.findAll text).head? = r.search text :=
  (findAll_scans r text).head?_eq

end AudioPlan.Regex
