import AudioPlan.Proofs.Rule.Checked
import AudioPlan.Proofs.Value.Entries

/-!
# Checks that agree

Two checks agree when the same is read by both, if anything is.  An object is read key by key, so
the checks of two objects agree when under each key the same is read.

* `ObjectStep` is a small change to an object: its keys in another order, a key added whose value
  stands for nothing, or the value under one key changed.  `ListStep` changes one item of a list.
* `Alike` relates what two objects have under one key, and `ObjectStep.alike` says that a small
  change leaves it alike under every key;
* `required_agree` and `optional_agree` carry this over to what is read of the objects, and
  `ListStep.forall₂_iff` says the same of lists.
-/

namespace AudioPlan

namespace Checked

variable {α : Type}

/-- The same is read, if anything is. -/
def Agree (x y : Checked α) : Prop :=
  ∀ a, x = .good a ↔ y = .good a

theorem Agree.of_eq {x y : Checked α} (h : x = y) : x.Agree y := by
  intro a
  rw [h]

end Checked

/-! ## Small changes -/

/-- A small change to an object, by what may stand under a key instead of leaving it out (`unset`)
and by the changes to what stands under a key (`change`). -/
inductive ObjectStep (unset : String → List Value) (change : String → Value → Value → Prop) :
    Value → Value → Prop
  | reorder {entries others : List (String × Value)} (hkeys : (entries.map Prod.fst).Nodup)
      (hperm : entries.Perm others) : ObjectStep unset change (.map entries) (.map others)
  | add {entries : List (String × Value)} {key : String} {v : Value}
      (habsent : key ∉ entries.map Prod.fst) (hunset : v ∈ unset key) :
      ObjectStep unset change (.map entries) (.map (entries ++ [(key, v)]))
  | change {before after : List (String × Value)} {key : String} {v w : Value}
      (hchange : change key v w) :
      ObjectStep unset change (.map (before ++ (key, v) :: after))
        (.map (before ++ (key, w) :: after))

/-- A change to one item of a list. -/
inductive ListStep (change : Value → Value → Prop) : Value → Value → Prop
  | item {before after : List Value} {v w : Value} (hchange : change v w) :
      ListStep change (.list (before ++ v :: after)) (.list (before ++ w :: after))

/-- What two objects have under one key: the same, nothing against a value that stands for nothing,
or a value against a changed one. -/
inductive Alike (unset : List Value) (change : Value → Value → Prop) :
    Option Value → Option Value → Prop
  | same (o : Option Value) : Alike unset change o o
  | unset {v : Value} (hunset : v ∈ unset) : Alike unset change none (some v)
  | change {v w : Value} (hchange : change v w) : Alike unset change (some v) (some w)

section Steps

variable {unset : String → List Value} {change : String → Value → Value → Prop} {v w : Value}

/-- A small change leaves an object an object, with values alike under every key. -/
theorem ObjectStep.alike (h : ObjectStep unset change v w) :
    ∃ entries others, v = .map entries ∧ w = .map others ∧
      ∀ key, Alike (unset key) (change key) (entries.lookup key) (others.lookup key) := by
  cases h with
  | @reorder entries others hkeys hperm =>
    refine ⟨entries, others, rfl, rfl, fun key => ?_⟩
    rw [lookup_eq_of_perm hkeys hperm key]
    exact .same _
  | @add entries added v habsent hunset =>
    refine ⟨entries, _, rfl, rfl, fun key => ?_⟩
    by_cases hkey : key = added
    · rw [hkey, lookup_eq_none_of_not_mem habsent, lookup_insert_self habsent]
      exact .unset hunset
    · rw [lookup_insert_ne hkey, List.append_nil]
      exact .same _
  | @change before after changed v w hchange =>
    refine ⟨_, _, rfl, rfl, fun key => ?_⟩
    by_cases hkey : key = changed
    · subst hkey
      rw [List.lookup_append, List.lookup_append, List.lookup_cons_self, List.lookup_cons_self]
      cases before.lookup key with
      | some u => exact .same _
      | none => exact .change hchange
    · rw [lookup_insert_ne hkey, lookup_insert_ne hkey]
      exact .same _

/-- A small change brings in no key that is not known, if those that may be added are known. -/
theorem ObjectStep.strays_iff {entries others : List (String × Value)}
    (h : ObjectStep unset change (.map entries) (.map others)) {known : List String}
    (hknown : ∀ key, ∀ v ∈ unset key, key ∈ known) :
    strays known (textKeys entries) = .good () ↔ strays known (textKeys others) = .good () := by
  rw [strays_textKeys, strays_textKeys]
  cases h with
  | reorder hkeys hperm => exact forall_congr' fun entry => by rw [hperm.mem_iff]
  | add habsent hunset =>
    rw [List.forall_mem_append, List.forall_mem_singleton]
    exact (and_iff_left (hknown _ _ hunset)).symm
  | change hchange =>
    rw [List.forall_mem_append, List.forall_mem_append, List.forall_mem_cons,
      List.forall_mem_cons]

end Steps

/-! ## What is read -/

section Reading

variable {α : Type} {unset : List Value} {change : Value → Value → Prop} {o p : Option Value}
  {check : Value → Checked α}

/-- Where nothing may be left out, a value is there on both sides or on neither. -/
theorem Alike.eq_none_iff (h : Alike [] change o p) :
    o = none ↔ p = none := by
  cases h with
  | same => exact Iff.rfl
  | unset hv => exact absurd hv List.not_mem_nil
  | change => simp

theorem Alike.exists_iff (h : Alike [] change o p)
    (hchange : ∀ v w, change v w → (check v).Agree (check w)) (a : α) :
    (∃ v, o = some v ∧ check v = .good a) ↔ ∃ v, p = some v ∧ check v = .good a := by
  cases h with
  | same => exact Iff.rfl
  | unset hv => exact absurd hv List.not_mem_nil
  | change hstep => simpa using hchange _ _ hstep a

/-- The same is read of two objects. -/
def ReadAlike (read : List (Value × Value) → Checked α) (entries others : List (String × Value)) :
    Prop :=
  (read (textKeys entries)).Agree (read (textKeys others))

variable {entries others : List (String × Value)} {name : String}

theorem required_agree
    (h : Alike [] change (entries.lookup name) (others.lookup name))
    (hchange : ∀ v w, change v w → (check v).Agree (check w)) :
    ReadAlike (required name check) entries others := by
  intro a
  rw [required_eq_good, required_eq_good, fieldNamed_textKeys, fieldNamed_textKeys]
  exact h.exists_iff hchange a

theorem optional_agree {default : α}
    (h : Alike unset change (entries.lookup name) (others.lookup name))
    (hunset : ∀ v ∈ unset, check v = .good default)
    (hchange : ∀ v w, change v w → (check v).Agree (check w)) :
    ReadAlike (optional name default check) entries others := by
  intro a
  rw [optional_eq_good, optional_eq_good, fieldNamed_textKeys, fieldNamed_textKeys]
  generalize entries.lookup name = o at h
  generalize others.lookup name = p at h
  cases h with
  | same => exact Iff.rfl
  | @unset v hv => simp [hunset v hv, eq_comm]
  | change hstep => simpa using hchange _ _ hstep a

end Reading

theorem nullable_agree {α : Type} {check : Value → Checked α} {v w : Value} (hv : v ≠ .null)
    (hw : w ≠ .null) (h : (check v).Agree (check w)) :
    (nullable check v).Agree (nullable check w) := by
  intro o
  rw [nullable_eq_good, nullable_eq_good]
  simp only [hv, hw, false_and, false_or, ne_eq, not_false_eq_true, true_and, h _]

theorem forall₂_replace {α β : Type} {R : α → β → Prop} {a b : α} (h : ∀ c, R a c ↔ R b c)
    (before after : List α) (cs : List β) :
    List.Forall₂ R (before ++ a :: after) cs ↔ List.Forall₂ R (before ++ b :: after) cs := by
  induction before generalizing cs with
  | nil =>
    rw [List.nil_append, List.nil_append, List.forall₂_cons_left_iff, List.forall₂_cons_left_iff]
    simp only [h]
  | cons x before ih =>
    rw [List.cons_append, List.cons_append, List.forall₂_cons_left_iff,
      List.forall₂_cons_left_iff]
    simp only [ih]

/-- The items of a list are read the same if one of them is changed into another that is. -/
theorem ListStep.forall₂_iff {α : Type} {change : Value → Value → Prop} {check : Value → Checked α}
    (hchange : ∀ v w, change v w → (check v).Agree (check w)) {v w : Value}
    (h : ListStep change v w) :
    ∃ items others, v = .list items ∧ w = .list others ∧ ∀ as,
      List.Forall₂ (fun v a => check v = .good a) items as ↔
        List.Forall₂ (fun v a => check v = .good a) others as := by
  cases h with
  | @item before after v w hstep =>
    exact ⟨_, _, rfl, rfl, fun as => forall₂_replace
      (R := fun v a => check v = .good a) (hchange v w hstep) before after as⟩

end AudioPlan
