import AudioPlan.Proofs.Marker.Identity
import AudioPlan.Proofs.Track.Matching
import Mathlib.Data.List.Perm.Basic

/-!
# Required flags in another order

The flags that a rule requires of a track are written as an object, and the order of its entries has
no meaning: every flag is tried by itself.  This file follows such a change of order from the
document to the rule set, to the matching and to the marker.

* `DispositionsReordered` relates documents that differ in the order of required flags only;
* `checkRule_reordered` says that the same rule is read, up to that order;
* `Rule.EqualUpToOrder.meets_eq` says that the order makes no difference to matching;
* `watermark_reordered_iff` says that it does make a difference to the marker: the marker stays the
  same only if the order does.
-/

namespace AudioPlan

open Json (Decoded)

/-! ## Documents -/

/-- The entries of an object in another order. -/
inductive EntriesReordered : Value → Value → Prop
  | reorder {entries others : List (String × Value)} (hperm : entries.Perm others) :
      EntriesReordered (.map entries) (.map others)

/-- A change to what stands under one key of an object. -/
inductive Under (key : String) (change : Value → Value → Prop) : Value → Value → Prop
  | change {before after : List (String × Value)} {v w : Value} (hchange : change v w) :
      Under key change (.map (before ++ (key, v) :: after)) (.map (before ++ (key, w) :: after))

/-- Rules that require the same flags in another order. -/
def RuleReordered : Value → Value → Prop :=
  Under "match" (Under "dispositions" EntriesReordered)

/-- Documents whose rules are the same, or require the same flags in another order. -/
def DispositionsReordered (d d' : Value) : Prop :=
  ∃ items others, d = .list items ∧ d' = .list others ∧
    List.Forall₂ (fun v w => v = w ∨ RuleReordered v w) items others

/-! ## Objects that differ under one key -/

/-- Two objects have the same keys, and the same under each of them but one. -/
structure DifferAt (key : String) (v w : Value) (entries others : List (String × Value)) :
    Prop where
  before : entries.lookup key = some v
  after : others.lookup key = some w
  same : ∀ k, k ≠ key → others.lookup k = entries.lookup k
  keys : others.map Prod.fst = entries.map Prod.fst
  eq : w = v → others = entries

theorem Under.exists_differAt {key : String} {change : Value → Value → Prop} {v w : Value}
    (h : Under key change v w) (hv : Decoded v) :
    ∃ entries others x y, v = .map entries ∧ w = .map others ∧ change x y ∧ Decoded x ∧
      DifferAt key x y entries others := by
  cases h with
  | @change before after x y hchange =>
    have hx : Decoded x := hv.of_mem_map (key, x) (by simp)
    have hkey : key ∉ before.map Prod.fst := by
      intro hmem
      have hnodup := hv.nodup_keys
      rw [List.map_append, List.nodup_append] at hnodup
      exact hnodup.2.2 key hmem key (by simp) rfl
    refine ⟨_, _, x, y, rfl, rfl, hchange, hx, ?_⟩
    exact {
      before := lookup_insert_self hkey x
      after := lookup_insert_self hkey y
      same := fun k hk => by rw [lookup_insert_ne hk, lookup_insert_ne hk]
      keys := by simp
      eq := fun hyx => by rw [hyx] }

namespace DifferAt

variable {α : Type} {key name : String} {v w : Value} {entries others : List (String × Value)}

theorem required_eq (h : DifferAt key v w entries others) (hname : name ≠ key)
    (check : Value → Checked α) :
    required name check (textKeys others) = required name check (textKeys entries) := by
  unfold required
  rw [fieldNamed_textKeys, fieldNamed_textKeys, h.same name hname]

theorem optional_eq (h : DifferAt key v w entries others) (hname : name ≠ key) (default : α)
    (check : Value → Checked α) :
    optional name default check (textKeys others) =
      optional name default check (textKeys entries) := by
  unfold optional
  rw [fieldNamed_textKeys, fieldNamed_textKeys, h.same name hname]

theorem strays_iff (h : DifferAt key v w entries others) {known : List String} :
    strays known (textKeys others) = .good () ↔ strays known (textKeys entries) = .good () := by
  have hmem : ∀ es : List (String × Value),
      (∀ entry ∈ es, entry.1 ∈ known) ↔ ∀ k ∈ es.map Prod.fst, k ∈ known := by
    intro es
    rw [List.forall_mem_map]
  rw [strays_textKeys, strays_textKeys, hmem, hmem, h.keys]

end DifferAt

/-! ## What is read -/

/-- Flags in another order are read in that order.  They are in the old order only if nothing was
reordered, because no two entries have one key. -/
theorem checkDispositions_reordered {v w : Value} (hv : Decoded v)
    {o : Option (List (String × Bool))} (h : checkDispositions v = .good o)
    (hreordered : EntriesReordered v w) :
    ∃ flags flags', o = some flags ∧ flags.Perm flags' ∧
      checkDispositions w = .good (some flags') ∧ (flags' = flags → w = v) := by
  cases hreordered with
  | @reorder entries others hperm =>
    have hnodup := hv.nodup_keys
    have hw : Decoded (.map others) :=
      .map ((hperm.map Prod.fst).nodup_iff.1 hnodup) fun entry hentry =>
        hv.of_mem_map entry (hperm.mem_iff.2 hentry)
    rcases (checkDispositions_eq_good hv).1 h with ⟨hnull, -⟩ | ⟨flags, ⟨_, hentries, hflags⟩, rfl⟩
    · cases hnull
    · cases hentries
      obtain ⟨flags', hflags', hperm'⟩ := List.perm_comp_forall₂ hperm.symm hflags
      refine ⟨flags, flags', rfl, hperm'.symm, ?_, ?_⟩
      · exact (checkDispositions_eq_good hw).2 (.inr ⟨flags', ⟨others, rfl, hflags'⟩, rfl⟩)
      · intro hsame
        have hkeys : entries.map Prod.fst = others.map Prod.fst := by
          rw [keys_eq_of_forall₂ hflags, keys_eq_of_forall₂ hflags', hsame]
        rw [eq_of_perm_of_keys_eq hnodup hperm hkeys]

theorem checkCriteria_reordered {v w : Value} (hv : Decoded v) {c : Criteria}
    (h : checkCriteria v = .good c) (hreordered : Under "dispositions" EntriesReordered v w) :
    ∃ flags flags', c.dispositions = some flags ∧ flags.Perm flags' ∧
      checkCriteria w = .good { c with dispositions := some flags' } ∧
        (flags' = flags → w = v) := by
  obtain ⟨entries, others, x, y, rfl, rfl, hxy, hx, hdiffer⟩ := hreordered.exists_differAt hv
  obtain ⟨_, hentries, hstrays, hcodecs, hchannels, hbitRate, hlanguages, hdispositions, htitle⟩ :=
    checkCriteria_eq_good.1 h
  rw [fields?_map, Option.some.injEq] at hentries
  subst hentries
  have hread : checkDispositions x = .good c.dispositions := by
    rcases optional_eq_good.1 hdispositions with ⟨hnone, -⟩ | ⟨_, hsome, hread⟩
    · rw [fieldNamed_textKeys, hdiffer.before] at hnone
      cases hnone
    · rw [fieldNamed_textKeys, hdiffer.before, Option.some.injEq] at hsome
      rw [hsome]
      exact hread
  obtain ⟨flags, flags', hflags, hperm, hread', heq⟩ := checkDispositions_reordered hx hread hxy
  refine ⟨flags, flags', hflags, hperm, ?_, fun hsame => by rw [hdiffer.eq (heq hsame)]⟩
  refine checkCriteria_eq_good.2 ⟨textKeys others, rfl, hdiffer.strays_iff.2 hstrays, ?_, ?_, ?_,
    ?_, ?_, ?_⟩
  · rw [hdiffer.required_eq (by decide)]
    exact hcodecs
  · rw [hdiffer.optional_eq (by decide)]
    exact hchannels
  · rw [hdiffer.optional_eq (by decide)]
    exact hbitRate
  · rw [hdiffer.optional_eq (by decide)]
    exact hlanguages
  · refine optional_eq_good.2 (.inr ⟨y, ?_, hread'⟩)
    rw [fieldNamed_textKeys, hdiffer.after]
  · rw [hdiffer.optional_eq (by decide)]
    exact htitle

/-- Rules that are equal but for the order in which required flags are listed. -/
inductive Rule.EqualUpToOrder : Rule → Rule → Prop
  | refl (r : Rule) : EqualUpToOrder r r
  | reorder {r : Rule} {flags flags' : List (String × Bool)}
      (hflags : r.criteria.dispositions = some flags) (hperm : flags.Perm flags') :
      EqualUpToOrder r { r with criteria := { r.criteria with dispositions := some flags' } }

theorem checkRule_reordered {v w : Value} (hv : Decoded v) {r : Rule}
    (h : checkRule v = .good r) (hreordered : v = w ∨ RuleReordered v w) :
    ∃ r', checkRule w = .good r' ∧ r.EqualUpToOrder r' ∧ (r' = r → w = v) := by
  rcases hreordered with rfl | hreordered
  · exact ⟨r, h, .refl r, fun _ => rfl⟩
  · obtain ⟨entries, others, x, y, rfl, rfl, hxy, hx, hdiffer⟩ := hreordered.exists_differAt hv
    obtain ⟨_, hentries, hstrays, hname, hcriteria, hoperations⟩ := checkRule_eq_good.1 h
    rw [fields?_map, Option.some.injEq] at hentries
    subst hentries
    obtain ⟨_, hsome, hread⟩ := required_eq_good.1 hcriteria
    rw [fieldNamed_textKeys, hdiffer.before, Option.some.injEq] at hsome
    subst hsome
    obtain ⟨flags, flags', hflags, hperm, hread', heq⟩ := checkCriteria_reordered hx hread hxy
    refine ⟨_, ?_, .reorder hflags hperm, ?_⟩
    · refine checkRule_eq_good.2 ⟨textKeys others, rfl, hdiffer.strays_iff.2 hstrays, ?_, ?_, ?_⟩
      · rw [hdiffer.optional_eq (by decide)]
        exact hname
      · refine required_eq_good.2 ⟨y, ?_, hread'⟩
        rw [fieldNamed_textKeys, hdiffer.after]
      · rw [hdiffer.required_eq (by decide)]
        exact hoperations
    · intro hsame
      have hcriteria' := congrArg (fun r : Rule => r.criteria.dispositions) hsame
      rw [hflags, Option.some.injEq] at hcriteria'
      rw [hdiffer.eq (heq hcriteria')]

theorem exists_rules_reordered {items others : List Value}
    (hitems : List.Forall₂ (fun v w => v = w ∨ RuleReordered v w) items others)
    (hdecoded : ∀ v ∈ items, Decoded v) {rules : List Rule}
    (hrules : List.Forall₂ (fun v r => checkRule v = .good r) items rules) :
    ∃ rules', List.Forall₂ (fun v r => checkRule v = .good r) others rules' ∧
      List.Forall₂ Rule.EqualUpToOrder rules rules' ∧ (rules' = rules → others = items) := by
  induction hitems generalizing rules with
  | nil =>
    cases hrules
    exact ⟨[], .nil, .nil, fun _ => rfl⟩
  | cons hvw _ ih =>
    obtain ⟨hv, hitems⟩ := List.forall_mem_cons.1 hdecoded
    cases hrules with
    | cons hr hrules =>
      obtain ⟨r', hr', hequal, heq⟩ := checkRule_reordered hv hr hvw
      obtain ⟨rules', hothers, hall, hsame⟩ := ih hitems hrules
      refine ⟨r' :: rules', .cons hr' hothers, .cons hequal hall, ?_⟩
      intro hcons
      rw [List.cons.injEq] at hcons
      rw [heq hcons.1, hsame hcons.2]

theorem validate_reordered {d d' : Value} (hd : Decoded d) {rs : RuleSet}
    (hvalid : validate d = .ok rs) (hreordered : DispositionsReordered d d') :
    ∃ rs', validate d' = .ok rs' ∧ List.Forall₂ Rule.EqualUpToOrder rs.rules rs'.rules ∧
      (rs' = rs → d' = d) := by
  obtain ⟨items, others, rfl, rfl, hitems⟩ := hreordered
  obtain ⟨_, hlist, hrules⟩ := validate_eq_ok.1 hvalid
  rw [Value.list.injEq] at hlist
  subst hlist
  obtain ⟨rules', hothers, hall, hsame⟩ := exists_rules_reordered hitems hd.of_mem_list hrules
  refine ⟨⟨rules'⟩, validate_eq_ok.2 ⟨others, rfl, hothers⟩, hall, ?_⟩
  intro heq
  rw [hsame (congrArg RuleSet.rules heq)]

/-! ## Matching -/

section Matching

variable {t : Track} {shown : List (String × Int)} (ht : t.disposition = .known shown)

include ht

theorem meetsDispositions_known (flags : List (String × Bool)) :
    t.meetsDispositions flags =
      .ok (flags.all fun flag => shown.lookup flag.1 == some (flag.2.toNat : Int)) := by
  induction flags with
  | nil => rfl
  | cons flag rest ih =>
    have hflag : t.hasFlag flag.1 flag.2 =
        .ok (shown.lookup flag.1 == some (flag.2.toNat : Int)) := by
      rw [Track.hasFlag, ht]
    rw [Track.meetsDispositions, hflag, ih, List.all_cons]
    cases shown.lookup flag.1 == some (flag.2.toNat : Int) with
    | true => rfl
    | false => rfl

/-- The order of required flags makes no difference to matching. -/
theorem Rule.EqualUpToOrder.meets_eq {r r' : Rule} (h : r.EqualUpToOrder r') :
    t.meets r'.criteria = t.meets r.criteria := by
  cases h with
  | refl => rfl
  | @reorder flags flags' hflags hperm =>
    have hmeets : t.meetsDispositions flags' = t.meetsDispositions flags := by
      rw [meetsDispositions_known ht, meetsDispositions_known ht, hperm.all_eq]
    simp only [Track.meets, hflags, hmeets]

/-- The search through rules that are equal up to the order of required flags stops at the same
position, or fails in the same way. -/
theorem firstMatch_position_eq {rules rules' : List Rule}
    (h : List.Forall₂ Rule.EqualUpToOrder rules rules') (position : Nat) :
    (t.firstMatch position rules').map (Option.map Prod.fst) =
      (t.firstMatch position rules).map (Option.map Prod.fst) := by
  induction h generalizing position with
  | nil => rfl
  | cons hequal _ ih =>
    rw [Track.firstMatch, Track.firstMatch, hequal.meets_eq ht]
    cases t.meets _ with
    | error fault => rfl
    | ok matched =>
      cases matched with
      | true => rfl
      | false => exact ih (position + 1)

end Matching

/-! ## Markers -/

/-- A document whose required flags are put in another order has the same rules, up to that order,
and they match the same: for a track that shows its flags the search stops at the same position, or
fails in the same way.  The marker keeps the order all the same, so it changes with every change of
the document. -/
theorem watermark_reordered_iff {d d' : Value} (hd : Decoded d) {rs : RuleSet}
    (hvalid : validate d = .ok rs) (hreordered : DispositionsReordered d d') :
    ∃ rs', validate d' = .ok rs' ∧ List.Forall₂ Rule.EqualUpToOrder rs.rules rs'.rules ∧
      (∀ (t : Track) (shown : List (String × Int)), t.disposition = .known shown →
        (t.firstMatch 0 rs'.rules).map (Option.map Prod.fst) =
          (t.firstMatch 0 rs.rules).map (Option.map Prod.fst)) ∧
      (rs'.watermark = rs.watermark ↔ d' = d) := by
  obtain ⟨rs', hvalid', hequal, hsame⟩ := validate_reordered hd hvalid hreordered
  refine ⟨rs', hvalid', hequal, fun t shown ht => firstMatch_position_eq ht hequal 0, ?_, ?_⟩
  · intro hmarker
    have hexact := rs.exact_document (validate_distinctFlags hvalid)
    have hexact' := rs'.exact_document (validate_distinctFlags hvalid')
    exact hsame (token_inj hexact' hexact (formatMarker_injective hmarker))
  · intro heq
    rw [heq, hvalid] at hvalid'
    rw [Except.ok.inj hvalid']

/-- A document with one rule, which drops the tracks that have flags with their values. -/
def requiredFlagsDocument (flags : List (String × Bool)) : Value :=
  .list [.map [
    ("match", .map [("codecs", .text "*"), ("dispositions", flagsDocument flags)]),
    ("operations", .list [])]]

/-- The rule set of that document. -/
def requiredFlagsRules (flags : List (String × Bool)) : RuleSet :=
  ⟨[{ criteria := { codecs := .all, dispositions := some flags } }]⟩

/-- The same two flags in either order: the same rule for every track, and two markers. -/
theorem watermark_reordered_forced :
    let flags := [("default", true), ("forced", false)]
    let rs := requiredFlagsRules flags
    let rs' := requiredFlagsRules flags.reverse
    Decoded (requiredFlagsDocument flags) ∧
      DispositionsReordered (requiredFlagsDocument flags) (requiredFlagsDocument flags.reverse) ∧
      validate (requiredFlagsDocument flags) = .ok rs ∧
      validate (requiredFlagsDocument flags.reverse) = .ok rs' ∧
      (∀ (t : Track) (shown : List (String × Int)), t.disposition = .known shown →
        (t.firstMatch 0 rs'.rules).map (Option.map Prod.fst) =
          (t.firstMatch 0 rs.rules).map (Option.map Prod.fst)) ∧
      rs'.watermark ≠ rs.watermark := by
  intro flags rs rs'
  have hdecoded : Decoded (requiredFlagsDocument flags) := by
    simp [requiredFlagsDocument, flagsDocument, flags]
  have hreordered : DispositionsReordered (requiredFlagsDocument flags)
      (requiredFlagsDocument flags.reverse) := by
    refine ⟨_, _, rfl, rfl, .cons (.inr ?_) .nil⟩
    have hflags : EntriesReordered (flagsDocument flags) (flagsDocument flags.reverse) :=
      .reorder (.swap _ _ _)
    exact @Under.change _ _ [] _ _ _ (@Under.change _ _ [("codecs", .text "*")] _ _ _ hflags)
  have hvalid : validate (requiredFlagsDocument flags) = .ok rs := by decide +kernel
  have hvalid' : validate (requiredFlagsDocument flags.reverse) = .ok rs' := by decide +kernel
  obtain ⟨found, hfound, -, hmatch, hiff⟩ := watermark_reordered_iff hdecoded hvalid hreordered
  rw [hvalid', Except.ok.injEq] at hfound
  subst hfound
  refine ⟨hdecoded, hreordered, hvalid, hvalid', hmatch, fun hmarker => ?_⟩
  have hsame := hiff.1 hmarker
  simp [requiredFlagsDocument, flagsDocument, flags] at hsame

end AudioPlan
