import AudioPlan.Proofs.Text.Brace
import AudioPlan.Proofs.Text.Search
import AudioPlan.Title
import Mathlib.Data.List.Infix
import Mathlib.Data.List.Nodup

/-!
# Substitution at once

Replacements are made one after another, each in what the ones before it have left.  Where tags are
names in braces and values have no braces (`IsTable`), this is a single pass over the template from
left to right (`Substituted`), in which each tag with a value gives way to its value and all else is
copied, provided that no brace opens between another and its end (`BracesApart`).  A single pass
knows no order among the replacements.

* `Segmented` is the shape of a template that the induction is on;
* `substituted_iff` says what the single pass gives, `substitute_perm` that the order is free.
-/

namespace AudioPlan

open Text

/-- The tag with a name. -/
def bracedTag (name : List Char) : List Char :=
  '\x7b' :: (name ++ ['\x7d'])

/-- Between a brace that opens and the next one that closes, no other one opens. -/
def BracesApart (cs : List Char) : Prop :=
  ∀ rest, '\x7b' :: rest <:+ cs → '\x7d' ∈ rest → '\x7b' ∉ rest.takeWhile (· != '\x7d')

theorem bracesApart_iff_tails {cs : List Char} :
    (∀ tail ∈ cs.tails, tail.head? = some '\x7b' → '\x7d' ∈ tail.tail →
      '\x7b' ∉ tail.tail.takeWhile (· != '\x7d')) ↔ BracesApart cs := by
  constructor
  · exact fun h rest hrest => h ('\x7b' :: rest) ((List.mem_tails _ _).2 hrest) rfl
  · intro h tail htail hhead
    obtain ⟨rest, rfl⟩ := List.head?_eq_some_iff.1 hhead
    exact h rest ((List.mem_tails _ _).1 htail)

instance (cs : List Char) : Decidable (BracesApart cs) :=
  decidable_of_iff _ bracesApart_iff_tails

/-- Replacements of different names in braces by texts without any. -/
structure IsTable (table : List Replacement) : Prop where
  tag : ∀ r ∈ table, ∃ name, Unbraced name ∧ r.1.toList = bracedTag name
  value : ∀ r ∈ table, ∀ value, r.2 = some value → Unbraced value.toList
  nodup : (table.map Prod.fst).Nodup

/-- One pass over a text from left to right: a tag with a value gives way to it, and a character
that no such tag starts with is copied. -/
inductive Substituted (table : List Replacement) : List Char → List Char → Prop where
  | done : Substituted table [] []
  | replaced {tag value : String} {rest out : List Char} (hmem : (tag, some value) ∈ table)
      (hrest : Substituted table rest out) :
      Substituted table (tag.toList ++ rest) (value.toList ++ out)
  | copied {c : Char} {rest out : List Char}
      (hnone : ∀ tag value, (tag, some value) ∈ table → ¬ tag.toList <+: c :: rest)
      (hrest : Substituted table rest out) : Substituted table (c :: rest) (c :: out)

/-- A text as characters, names in braces, and what follows a brace that is not closed. -/
inductive Segmented : List Char → Prop where
  | nil : Segmented []
  | char {c : Char} {rest : List Char} (hc : c ≠ '\x7b') (hrest : Segmented rest) :
      Segmented (c :: rest)
  | field {name rest : List Char} (hname : Unbraced name) (hrest : Segmented rest) :
      Segmented (bracedTag name ++ rest)
  | unclosed {rest : List Char} (hrest : '\x7d' ∉ rest) : Segmented ('\x7b' :: rest)

/-! ## Tags and templates -/

theorem takeWhile_closing {cs : List Char} (hcs : '\x7d' ∉ cs) (rest : List Char) :
    (cs ++ '\x7d' :: rest).takeWhile (· != '\x7d') = cs := by
  have hkeep : ∀ c ∈ cs, (c != '\x7d') = true := by
    intro c hc
    rw [bne_iff_ne]
    rintro rfl
    exact hcs hc
  rw [List.takeWhile_append_of_pos hkeep, List.takeWhile_cons_of_neg (by decide), List.append_nil]

/-- At most one tag starts at a place. -/
theorem bracedTag_inj_of_starts {name name' rest : List Char} (hname : Unbraced name)
    (hname' : Unbraced name') (h : bracedTag name <+: bracedTag name' ++ rest) : name = name' := by
  obtain ⟨rest', heq⟩ := h
  simp only [bracedTag, List.cons_append, List.append_assoc, List.nil_append] at heq
  have hnames := congrArg (List.takeWhile (· != '\x7d')) (List.cons.inj heq).2
  rwa [takeWhile_closing hname.2, takeWhile_closing hname'.2] at hnames

/-- A replacement for one tag goes past another. -/
theorem replaceAll_bracedTag_of_ne {name name' : List Char} (hname : Unbraced name)
    (hname' : Unbraced name') (hne : name ≠ name') (value rest : List Char) :
    replaceAll (bracedTag name) value (bracedTag name' ++ rest) =
      bracedTag name' ++ replaceAll (bracedTag name) value rest := by
  have hfirst : ¬ bracedTag name <+: bracedTag name' ++ rest :=
    fun h => hne (bracedTag_inj_of_starts hname hname' h)
  have hbehind : '\x7b' ∉ name' ++ ['\x7d'] := List.not_mem_append hname'.1 (by decide)
  calc replaceAll (bracedTag name) value (bracedTag name' ++ rest)
    _ = '\x7b' :: replaceAll (bracedTag name) value (name' ++ ['\x7d'] ++ rest) :=
      replaceAll_cons hfirst value
    _ = bracedTag name' ++ replaceAll (bracedTag name) value rest := by
      rw [bracedTag, replaceAll_append_of_not_mem hbehind]
      rfl

theorem BracesApart.of_suffix {cs ds : List Char} (h : BracesApart cs) (hsuffix : ds <:+ cs) :
    BracesApart ds :=
  fun rest hrest => h rest (hrest.trans hsuffix)

theorem BracesApart.segmented {cs : List Char} (h : BracesApart cs) : Segmented cs := by
  induction hlength : cs.length using Nat.strongRecOn generalizing cs with
  | ind n ih =>
    cases cs with
    | nil => exact .nil
    | cons c rest =>
      by_cases hc : c = '\x7b'
      · subst hc
        by_cases hclose : '\x7d' ∈ rest
        · have hname := h rest (List.suffix_refl _) hclose
          obtain ⟨name, after, rfl, hend⟩ := List.eq_append_cons_of_mem hclose
          rw [takeWhile_closing hend] at hname
          have htag : '\x7b' :: (name ++ '\x7d' :: after) = bracedTag name ++ after := by
            simp [bracedTag]
          rw [htag] at h hlength ⊢
          refine .field ⟨hname, hend⟩ (ih _ ?_ (h.of_suffix (List.suffix_append _ _)) rfl)
          rw [← hlength]
          simp [bracedTag]
          omega
        · exact .unclosed hclose
      · refine .char hc (ih _ ?_ (h.of_suffix (List.suffix_cons c rest)) rfl)
        rw [← hlength]
        exact Nat.lt_succ_self _

/-! ## One after another -/

section Substitute

theorem substitute_cons_some (text : List Char) (tag value : String) (table : List Replacement) :
    substitute text ((tag, some value) :: table) =
      substitute (replaceAll tag.toList value.toList text) table := rfl

/-- A text in which no tag with a value occurs stays as it is. -/
theorem substitute_of_not_infix {text : List Char} {table : List Replacement}
    (h : ∀ tag value, (tag, some value) ∈ table → ¬ tag.toList <:+: text) :
    substitute text table = text := by
  induction table with
  | nil => rfl
  | cons r table ih =>
    have hrest := ih fun tag value hmem => h tag value (List.mem_cons_of_mem r hmem)
    obtain ⟨tag, value⟩ := r
    cases value with
    | none => exact hrest
    | some value =>
      rw [substitute_cons_some, replaceAll_of_not_infix (h tag value List.mem_cons_self), hrest]

theorem IsTable.cons {r : Replacement} {table : List Replacement} (h : IsTable (r :: table)) :
    IsTable table where
  tag r' hr' := h.tag r' (List.mem_cons_of_mem r hr')
  value r' hr' := h.value r' (List.mem_cons_of_mem r hr')
  nodup := (List.nodup_cons.1 h.nodup).2

variable {table : List Replacement} (htable : IsTable table)
include htable

/-- What no tag can start in is copied. -/
theorem IsTable.substitute_append {cs : List Char} (hcs : '\x7b' ∉ cs) (rest : List Char) :
    substitute (cs ++ rest) table = cs ++ substitute rest table := by
  induction table generalizing rest with
  | nil => rfl
  | cons r table ih =>
    obtain ⟨tag, value⟩ := r
    cases value with
    | none => exact ih htable.cons rest
    | some value =>
      obtain ⟨name, -, htag⟩ := htable.tag _ List.mem_cons_self
      rw [substitute_cons_some, substitute_cons_some, htag, bracedTag,
        replaceAll_append_of_not_mem hcs, ih htable.cons]

/-- Where no brace closes, nothing is replaced. -/
theorem IsTable.substitute_of_not_mem {cs : List Char} (hcs : '\x7d' ∉ cs) :
    substitute cs table = cs := by
  refine substitute_of_not_infix fun tag value hmem hfound => hcs (hfound.subset ?_)
  obtain ⟨name, -, htag⟩ := htable.tag _ hmem
  rw [htag]
  simp [bracedTag]

/-- A tag without a value is copied. -/
theorem IsTable.substitute_bracedTag {name : List Char} (hname : Unbraced name)
    (hnone : ∀ tag value, (tag, some value) ∈ table → tag.toList ≠ bracedTag name)
    (rest : List Char) :
    substitute (bracedTag name ++ rest) table = bracedTag name ++ substitute rest table := by
  induction table generalizing rest with
  | nil => rfl
  | cons r table ih =>
    have hrest := ih htable.cons fun tag value hmem => hnone tag value (List.mem_cons_of_mem r hmem)
    obtain ⟨tag, value⟩ := r
    cases value with
    | none => exact hrest rest
    | some value =>
      obtain ⟨other, hother, htag⟩ := htable.tag _ List.mem_cons_self
      have hne : other ≠ name := by
        rintro rfl
        exact hnone tag value List.mem_cons_self htag
      rw [substitute_cons_some, substitute_cons_some, htag,
        replaceAll_bracedTag_of_ne hother hname hne, hrest]

/-- A tag with a value gives way to it, and what follows is replaced on its own. -/
theorem IsTable.substitute_tag {tag value : String} (hmem : (tag, some value) ∈ table)
    (rest : List Char) :
    substitute (tag.toList ++ rest) table = value.toList ++ substitute rest table := by
  induction table generalizing rest with
  | nil => exact nomatch hmem
  | cons r table ih =>
    obtain ⟨name, hname, htag⟩ := htable.tag _ hmem
    rcases List.mem_cons.1 hmem with rfl | hbehind
    · have hvalue := htable.value _ List.mem_cons_self value rfl
      rw [substitute_cons_some, substitute_cons_some, replaceAll_append (by simp [htag, bracedTag]),
        htable.cons.substitute_append hvalue.1]
    · obtain ⟨other, _ | otherValue⟩ := r
      · exact ih htable.cons hbehind rest
      · obtain ⟨name', hname', htag'⟩ := htable.tag _ List.mem_cons_self
        have hne : name' ≠ name := by
          rintro rfl
          have hsame : other = tag := String.toList_inj.1 (htag'.trans htag.symm)
          have hagain : tag ∈ table.map Prod.fst := List.mem_map_of_mem hbehind
          exact (List.nodup_cons.1 htable.nodup).1 (hsame ▸ hagain)
        rw [substitute_cons_some, substitute_cons_some, htag', htag,
          replaceAll_bracedTag_of_ne hname' hname hne, ← htag, ih htable.cons hbehind]

end Substitute

/-! ## At once -/

section Substituted

variable {table : List Replacement} (htable : IsTable table)
include htable

theorem IsTable.not_prefix_of_ne {c : Char} (hc : c ≠ '\x7b') (rest : List Char) :
    ∀ tag value, (tag, some value) ∈ table → ¬ tag.toList <+: c :: rest := by
  intro tag value hmem hstart
  obtain ⟨name, -, htag⟩ := htable.tag _ hmem
  rw [htag] at hstart
  exact hc (List.cons_prefix_cons.1 hstart).1.symm

theorem IsTable.substituted_append {cs rest out : List Char} (hcs : '\x7b' ∉ cs)
    (h : Substituted table rest out) : Substituted table (cs ++ rest) (cs ++ out) := by
  induction cs with
  | nil => exact h
  | cons c cs ih =>
    have hc := (List.ne_of_not_mem_cons hcs).symm
    exact .copied (htable.not_prefix_of_ne hc _) (ih (List.not_mem_of_not_mem_cons hcs))

theorem IsTable.substituted_self {cs : List Char} (hcs : '\x7d' ∉ cs) :
    Substituted table cs cs := by
  induction cs with
  | nil => exact .done
  | cons c cs ih =>
    refine .copied (fun tag value hmem hstart => ?_) (ih (List.not_mem_of_not_mem_cons hcs))
    obtain ⟨name, -, htag⟩ := htable.tag _ hmem
    refine hcs (hstart.subset ?_)
    rw [htag]
    simp [bracedTag]

/-- What comes of replacements one after another is what comes of a single pass. -/
theorem IsTable.substituted_substitute {cs : List Char} (hcs : Segmented cs) :
    Substituted table cs (substitute cs table) := by
  induction hcs with
  | nil =>
    rw [htable.substitute_of_not_mem List.not_mem_nil]
    exact .done
  | @char c rest hc hrest ih =>
    have hsingle : '\x7b' ∉ [c] := fun h => hc (List.mem_singleton.1 h).symm
    have hcopy := htable.substitute_append hsingle rest
    rw [List.singleton_append] at hcopy
    rw [hcopy]
    exact .copied (htable.not_prefix_of_ne hc rest) ih
  | @field name rest hname hrest ih =>
    by_cases hvalue : ∃ tag value, (tag, some value) ∈ table ∧ tag.toList = bracedTag name
    · obtain ⟨tag, value, hmem, htag⟩ := hvalue
      rw [← htag, htable.substitute_tag hmem]
      exact .replaced hmem ih
    · have hnone : ∀ tag value, (tag, some value) ∈ table → tag.toList ≠ bracedTag name :=
        fun tag value hmem htag => hvalue ⟨tag, value, hmem, htag⟩
      rw [htable.substitute_bracedTag hname hnone]
      refine .copied (fun tag value hmem hstart => ?_) ?_
      · obtain ⟨other, hother, htag⟩ := htable.tag _ hmem
        rw [htag] at hstart
        exact hnone tag value hmem (bracedTag_inj_of_starts hother hname hstart ▸ htag)
      · exact htable.substituted_append (List.not_mem_append hname.1 (by decide)) ih
  | @unclosed rest hrest =>
    have hclose : '\x7d' ∉ '\x7b' :: rest := List.not_mem_cons_of_ne_of_not_mem (by decide) hrest
    rw [htable.substitute_of_not_mem hclose]
    exact htable.substituted_self hclose

/-- Two tags with values that start at the same place are the same replacement. -/
theorem IsTable.eq_of_starts {tag tag' value value' : String} {rest rest' : List Char}
    (hmem : (tag, some value) ∈ table) (hmem' : (tag', some value') ∈ table)
    (heq : tag.toList ++ rest = tag'.toList ++ rest') : tag = tag' ∧ value = value' := by
  obtain ⟨name, hname, htag⟩ := htable.tag _ hmem
  obtain ⟨name', hname', htag'⟩ := htable.tag _ hmem'
  have hstart : bracedTag name <+: bracedTag name' ++ rest' := ⟨rest, by rw [← htag, ← htag', heq]⟩
  have hnames := bracedTag_inj_of_starts hname hname' hstart
  have htags : tag = tag' := String.toList_inj.1 (by rw [htag, htag', hnames])
  have hboth := List.inj_on_of_nodup_map htable.nodup hmem hmem' htags
  exact ⟨htags, Option.some.inj (congrArg Prod.snd hboth)⟩

/-- A single pass gives one text only. -/
theorem IsTable.substituted_unique {cs out out' : List Char} (h : Substituted table cs out)
    (h' : Substituted table cs out') : out = out' := by
  have hne : ∀ {tag : String} {value : String} (rest : List Char), (tag, some value) ∈ table →
      tag.toList ++ rest ≠ [] := by
    intro tag value rest hmem
    obtain ⟨name, -, htag⟩ := htable.tag _ hmem
    simp [htag, bracedTag]
  induction h generalizing out' with
  | done =>
    generalize hcs : [] = cs at h'
    cases h' with
    | done => rfl
    | replaced hmem' _ => exact absurd hcs.symm (hne _ hmem')
    | copied _ _ => exact nomatch hcs
  | @replaced tag value rest out hmem hrest ih =>
    generalize hcs : tag.toList ++ rest = cs at h'
    cases h' with
    | done => exact absurd hcs (hne _ hmem)
    | @replaced tag' value' rest' out' hmem' hrest' =>
      obtain ⟨rfl, rfl⟩ := htable.eq_of_starts hmem hmem' hcs
      obtain rfl := List.append_cancel_left hcs
      rw [ih hrest']
    | copied hnone' _ => exact absurd ⟨rest, hcs⟩ (hnone' tag value hmem)
  | @copied c rest out hnone hrest ih =>
    generalize hcs : c :: rest = cs at h'
    cases h' with
    | done => exact nomatch hcs
    | @replaced tag' value' rest' _ hmem' _ => exact absurd ⟨rest', hcs.symm⟩ (hnone _ _ hmem')
    | copied _ hrest' =>
      obtain ⟨rfl, rfl⟩ := List.cons.inj hcs
      rw [ih hrest']

/-- Replacements one after another are one single pass. -/
theorem IsTable.substituted_iff {cs out : List Char} (hcs : BracesApart cs) :
    Substituted table cs out ↔ out = substitute cs table := by
  have hpass := htable.substituted_substitute hcs.segmented
  constructor
  · exact fun h => htable.substituted_unique h hpass
  · rintro rfl
    exact hpass

end Substituted

theorem IsTable.perm {table table' : List Replacement} (htable : IsTable table)
    (hperm : table'.Perm table) : IsTable table' where
  tag r hr := htable.tag r (hperm.mem_iff.1 hr)
  value r hr := htable.value r (hperm.mem_iff.1 hr)
  nodup := (hperm.map Prod.fst).nodup_iff.2 htable.nodup

theorem Substituted.perm {table table' : List Replacement} (hperm : table'.Perm table)
    {cs out : List Char} (h : Substituted table cs out) : Substituted table' cs out := by
  induction h with
  | done => exact .done
  | replaced hmem _ ih => exact .replaced (hperm.mem_iff.2 hmem) ih
  | copied hnone _ ih =>
    exact .copied (fun tag value hmem => hnone tag value (hperm.mem_iff.1 hmem)) ih

/-- The order of the replacements is free. -/
theorem IsTable.substitute_perm {table table' : List Replacement} (htable : IsTable table)
    (hperm : table'.Perm table) {cs : List Char} (hcs : BracesApart cs) :
    substitute cs table' = substitute cs table := by
  have hpass := htable.substituted_substitute hcs.segmented
  exact (((htable.perm hperm).substituted_iff hcs).1 (hpass.perm hperm)).symm

end AudioPlan
