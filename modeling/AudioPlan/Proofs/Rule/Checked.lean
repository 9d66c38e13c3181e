import AudioPlan.Rule.Checked
import Mathlib.Data.List.Forall2

/-!
# Checks that succeed

A combined check succeeds exactly when its parts do.  There is one equivalence for each way of
combining checks, and proofs take a check apart with them in the order in which it was put together.
Where only the success counts and not what was read, `Checked.Accepted` has an equivalence for each
way as well.  The objects of JSON have texts for keys, for which the look-up of a field is that of a
list of entries (`fieldNamed_textKeys`).
-/

namespace AudioPlan

namespace Checked

variable {α β γ : Type}

@[simp] theorem fail_ne_good (cause : Cause) (a : α) : Checked.fail cause ≠ .good a := by
  intro h
  cases h

theorem map_eq_good {f : α → β} {x : Checked α} {b : β} :
    x.map f = .good b ↔ ∃ a, x = .good a ∧ f a = b := by
  cases x with
  | good a => simp [map]
  | bad first rest => simp [map]

theorem both_eq_good {f : α → β → γ} {x : Checked α} {y : Checked β} {c : γ} :
    both f x y = .good c ↔ ∃ a b, x = .good a ∧ y = .good b ∧ f a b = c := by
  cases x with
  | good a =>
    cases y with
    | good b => simp [both]
    | bad first rest => simp [both]
  | bad first rest =>
    cases y with
    | good b => simp [both]
    | bad other others => simp [both]

theorem alongside_eq_good {x : Checked α} {y : Checked Unit} {a : α} :
    x.alongside y = .good a ↔ x = .good a ∧ y = .good () := by
  rw [alongside, both_eq_good]
  constructor
  · rintro ⟨a, u, hx, hy, rfl⟩
    exact ⟨hx, hy⟩
  · rintro ⟨hx, hy⟩
    exact ⟨a, (), hx, hy, rfl⟩

@[simp] theorem under_eq_good {step : Step} {x : Checked α} {a : α} :
    x.under step = .good a ↔ x = .good a := by
  cases x with
  | good a => simp [under]
  | bad first rest => simp [under]

/-- The items of a list are good when each of them is. -/
theorem items_eq_good {check : Value → Checked α} {position : Nat} {vs : List Value}
    {as : List α} :
    items check position vs = .good as ↔ List.Forall₂ (fun v a => check v = .good a) vs as := by
  induction vs generalizing position as with
  | nil =>
    rw [items, List.forall₂_nil_left_iff, good.injEq]
    exact eq_comm
  | cons v vs ih =>
    rw [items, both_eq_good, List.forall₂_cons_left_iff]
    simp only [under_eq_good, ih]
    constructor
    · rintro ⟨a, rest, ha, hrest, rfl⟩
      exact ⟨a, rest, ha, hrest, rfl⟩
    · rintro ⟨a, rest, ha, hrest, rfl⟩
      exact ⟨a, rest, ha, hrest, rfl⟩

/-- What stands on the right of a relation of lists has a partner on the left. -/
theorem exists_mem_of_forall₂ {R : α → β → Prop} {as : List α} {bs : List β}
    (h : List.Forall₂ R as bs) {b : β} (hb : b ∈ bs) : ∃ a ∈ as, R a b := by
  induction h with
  | nil => exact absurd hb List.not_mem_nil
  | @cons a c as bs hac _ ih =>
    rcases List.mem_cons.1 hb with rfl | hb
    · exact ⟨a, List.mem_cons_self, hac⟩
    · obtain ⟨d, hd, hdb⟩ := ih hb
      exact ⟨d, List.mem_cons_of_mem a hd, hdb⟩

/-- A relation of lists may be weakened with the membership on the left at hand. -/
theorem forall₂_imp_of_mem {R S : α → β → Prop} {as : List α} {bs : List β}
    (h : List.Forall₂ R as bs) (himp : ∀ a ∈ as, ∀ b, R a b → S a b) : List.Forall₂ S as bs := by
  induction h with
  | nil => exact .nil
  | @cons a b as bs hab _ ih =>
    obtain ⟨ha, has⟩ := List.forall_mem_cons.1 himp
    exact .cons (ha b hab) (ih has)

/-- A list has partners item by item when each of its items has one. -/
theorem exists_forall₂_iff {R : α → β → Prop} {as : List α} :
    (∃ bs, List.Forall₂ R as bs) ↔ ∀ a ∈ as, ∃ b, R a b := by
  induction as with
  | nil => exact iff_of_true ⟨[], .nil⟩ (by simp)
  | cons a as ih =>
    rw [List.forall_mem_cons, ← ih]
    constructor
    · rintro ⟨_, _ | ⟨hab, habs⟩⟩
      exact ⟨⟨_, hab⟩, ⟨_, habs⟩⟩
    · rintro ⟨⟨b, hab⟩, ⟨bs, habs⟩⟩
      exact ⟨b :: bs, .cons hab habs⟩

/-- Where an item can have its image as a partner only, and has it if the image passes a test, the
same goes for the list. -/
theorem forall₂_iff_eq_map {R : α → β → Prop} {f : α → β} {p : β → Prop} {as : List α}
    {bs : List β} (h : ∀ a ∈ as, ∀ b, R a b ↔ b = f a ∧ p b) :
    List.Forall₂ R as bs ↔ bs = as.map f ∧ ∀ b ∈ bs, p b := by
  induction as generalizing bs with
  | nil =>
    rw [List.forall₂_nil_left_iff]
    constructor
    · rintro rfl
      exact ⟨rfl, by simp⟩
    · exact fun hbs => hbs.1
  | cons a as ih =>
    obtain ⟨ha, has⟩ := List.forall_mem_cons.1 h
    constructor
    · rintro (_ | ⟨hab, hrest⟩)
      obtain ⟨rfl, hp⟩ := (ha _).1 hab
      obtain ⟨rfl, hps⟩ := (ih has).1 hrest
      exact ⟨rfl, List.forall_mem_cons.2 ⟨hp, hps⟩⟩
    · rintro ⟨rfl, hp⟩
      obtain ⟨hp, hps⟩ := List.forall_mem_cons.1 hp
      exact .cons ((ha _).2 ⟨rfl, hp⟩) ((ih has).2 ⟨rfl, hps⟩)

/-- Where every item has one partner only, what holds of all partners holds of each item's. -/
theorem forall_mem_iff_of_forall₂ {R : α → β → Prop} {as : List α} {bs : List β}
    (h : List.Forall₂ R as bs) (hunique : ∀ a ∈ as, ∀ b b', R a b → R a b' → b = b')
    {P : β → Prop} : (∀ b ∈ bs, P b) ↔ ∀ a ∈ as, ∃ b, R a b ∧ P b := by
  induction h with
  | nil => simp
  | @cons a b as bs hab _ ih =>
    obtain ⟨ha, has⟩ := List.forall_mem_cons.1 hunique
    rw [List.forall_mem_cons, List.forall_mem_cons, ih has]
    refine and_congr_left fun _ => ⟨fun hb => ⟨b, hab, hb⟩, ?_⟩
    rintro ⟨c, hac, hc⟩
    rw [ha b c hab hac]
    exact hc

end Checked

/-! ## Objects -/

section Objects

variable {α : Type} {name : String} {check : Value → Checked α} {entries : List (Value × Value)}
  {a : α}

theorem object_eq_good {part : Part} {known : List String}
    {fields : List (Value × Value) → Checked α} {v : Value} :
    object part known fields v = .good a ↔
      ∃ entries, v.fields? = some entries ∧ fields entries = .good a ∧
        strays known entries = .good () := by
  unfold object
  cases v.fields? with
  | none => simp
  | some entries => simp [Checked.alongside_eq_good]

theorem required_eq_good :
    required name check entries = .good a ↔
      ∃ v, fieldNamed name entries = some v ∧ check v = .good a := by
  unfold required
  cases fieldNamed name entries with
  | none => simp
  | some v => simp

theorem optional_eq_good {default : α} :
    optional name default check entries = .good a ↔
      (fieldNamed name entries = none ∧ a = default) ∨
        ∃ v, fieldNamed name entries = some v ∧ check v = .good a := by
  unfold optional
  cases fieldNamed name entries with
  | none => simp [eq_comm]
  | some v => simp

theorem nullable_eq_good {v : Value} {o : Option α} :
    nullable check v = .good o ↔
      (v = .null ∧ o = none) ∨ (v ≠ .null ∧ ∃ a, check v = .good a ∧ o = some a) := by
  by_cases hv : v = .null
  · subst hv
    simp [nullable, eq_comm]
  · rw [nullable, Checked.map_eq_good]
    · simp [hv, eq_comm]
    · exact hv

end Objects

/-! ## Success alone -/

/-- A check that succeeds, whatever it reads. -/
def Checked.Accepted {α : Type} (x : Checked α) : Prop :=
  ∃ a, x = .good a

section Accepted

variable {α β γ : Type} {name : String} {check : Value → Checked α}
  {entries : List (Value × Value)}

namespace Checked

theorem accepted_good (a : α) : (Checked.good a).Accepted :=
  ⟨a, rfl⟩

theorem not_accepted_fail (cause : Cause) : ¬ (Checked.fail cause : Checked α).Accepted := by
  rintro ⟨a, ha⟩
  exact fail_ne_good cause a ha

theorem accepted_map {f : α → β} {x : Checked α} : (x.map f).Accepted ↔ x.Accepted := by
  simp [Accepted, map_eq_good]

theorem accepted_both {f : α → β → γ} {x : Checked α} {y : Checked β} :
    (both f x y).Accepted ↔ x.Accepted ∧ y.Accepted := by
  simp only [Accepted, both_eq_good]
  constructor
  · rintro ⟨c, a, b, ha, hb, -⟩
    exact ⟨⟨a, ha⟩, ⟨b, hb⟩⟩
  · rintro ⟨⟨a, ha⟩, ⟨b, hb⟩⟩
    exact ⟨_, a, b, ha, hb, rfl⟩

theorem accepted_items {position : Nat} {vs : List Value} :
    (items check position vs).Accepted ↔ ∀ v ∈ vs, (check v).Accepted := by
  induction vs generalizing position with
  | nil => simp [items, accepted_good]
  | cons v vs ih =>
    rw [items, accepted_both, ih, List.forall_mem_cons]
    simp [Accepted]

end Checked

theorem accepted_object {part : Part} {known : List String}
    {fields : List (Value × Value) → Checked α} {v : Value} :
    (object part known fields v).Accepted ↔
      ∃ entries, v.fields? = some entries ∧ strays known entries = .good () ∧
        (fields entries).Accepted := by
  simp only [Checked.Accepted, object_eq_good]
  constructor
  · rintro ⟨a, entries, hentries, ha, hstrays⟩
    exact ⟨entries, hentries, hstrays, a, ha⟩
  · rintro ⟨entries, hentries, hstrays, a, ha⟩
    exact ⟨a, entries, hentries, ha, hstrays⟩

theorem accepted_required :
    (required name check entries).Accepted ↔
      ∃ v, fieldNamed name entries = some v ∧ (check v).Accepted := by
  simp only [Checked.Accepted, required_eq_good]
  constructor
  · rintro ⟨a, v, hv, ha⟩
    exact ⟨v, hv, a, ha⟩
  · rintro ⟨v, hv, a, ha⟩
    exact ⟨a, v, hv, ha⟩

theorem accepted_optional {default : α} :
    (optional name default check entries).Accepted ↔
      ∀ v, fieldNamed name entries = some v → (check v).Accepted := by
  unfold optional
  cases fieldNamed name entries with
  | none => simp [Checked.accepted_good]
  | some v => simp [Checked.Accepted]

theorem accepted_nullable {v : Value} :
    (nullable check v).Accepted ↔ v = .null ∨ (check v).Accepted := by
  by_cases hv : v = .null
  · simp [hv, nullable, Checked.accepted_good]
  · rw [nullable, Checked.accepted_map]
    · simp [hv]
    · exact hv

end Accepted

/-! ## Objects of JSON -/

/-- Entries with texts for keys, as the checks of objects take them. -/
def textKeys (entries : List (String × Value)) : List (Value × Value) :=
  entries.map fun (key, v) => (.text key, v)

theorem fields?_map (entries : List (String × Value)) :
    (Value.map entries).fields? = some (textKeys entries) :=
  rfl

theorem fieldNamed_textKeys (name : String) (entries : List (String × Value)) :
    fieldNamed name (textKeys entries) = entries.lookup name := by
  induction entries with
  | nil => rfl
  | cons entry entries ih =>
    obtain ⟨key, v⟩ := entry
    rw [textKeys, List.map_cons, fieldNamed, List.lookup_cons]
    by_cases hkey : key = name
    · rw [if_pos hkey, hkey, beq_self_eq_true]
    · have hne : (name == key) = false := beq_false_of_ne (Ne.symm hkey)
      rw [if_neg hkey, hne]
      exact ih

/-- No key is astray if all of them are known. -/
theorem strays_textKeys {known : List String} {entries : List (String × Value)} :
    strays known (textKeys entries) = .good () ↔ ∀ entry ∈ entries, entry.1 ∈ known := by
  have hnil : strayIssues known (textKeys entries) = [] ↔ ∀ entry ∈ entries, entry.1 ∈ known := by
    rw [strayIssues, textKeys, List.filterMap_map, List.filterMap_eq_nil_iff]
    refine forall₂_congr fun entry _ => ?_
    by_cases hknown : entry.1 ∈ known
    · simp [hknown]
    · simp [hknown]
  rw [← hnil, strays]
  cases strayIssues known (textKeys entries) with
  | nil => simp
  | cons first rest => simp

end AudioPlan
