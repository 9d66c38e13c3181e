import AudioPlan.Track.Disposition

/-!
# Disposition texts and back

A disposition text is made of the names of flags and their signs, with nothing else to keep them
apart.  As long as no name is empty or has a sign in it, this is enough: `decodeFlags` finds the
flags again, with their values and in their order.

* `splitFlags` takes a text apart at its signs, and `splitFlags_append` and `splitFlags_sign` say
  what becomes of a name and of a sign;
* `decodeFlags_encodeFlags` says that flags are read back;
* `encodeFlags_lossless` adds that different flags have different texts, and that of all names in a
  text only that of a true flag in front stands without a sign.
-/

namespace AudioPlan

/-! ## Names and signs -/

/-- Whether a character is one of the signs that stand before flags. -/
def isFlagSign (c : Char) : Bool :=
  c == '+' || c == '-'

/-- Characters without a sign among them. -/
def Unsigned (cs : List Char) : Prop :=
  ∀ c ∈ cs, isFlagSign c = false

instance (cs : List Char) : Decidable (Unsigned cs) :=
  List.decidableBAll (isFlagSign · = false) cs

/-- Names of flags that can be told apart in a text. -/
structure IsFlagName (name : String) : Prop where
  ne_empty : name ≠ ""
  unsigned : Unsigned name.toList

instance (name : String) : Decidable (IsFlagName name) :=
  decidable_of_iff (name ≠ "" ∧ Unsigned name.toList) ⟨fun h => ⟨h.1, h.2⟩, fun h => ⟨h.1, h.2⟩⟩

/-- A name that stands between two parts of a text, whole: a sign or an end of the text is on either
side. -/
structure NameAt (text before name after : List Char) : Prop where
  eq : text = before ++ (name ++ after)
  ne_nil : name ≠ []
  unsigned : Unsigned name
  starts : ∀ c ∈ before.getLast?, isFlagSign c = true
  ends : ∀ c ∈ after.head?, isFlagSign c = true

/-! ## Reading a text -/

/-- The characters in front of the first sign, and the flags behind the signs. -/
def splitFlags : List Char → List Char × List (String × Bool)
  | [] => ([], [])
  | c :: cs =>
    if isFlagSign c then ([], (String.ofList (splitFlags cs).1, c == '+') :: (splitFlags cs).2)
    else (c :: (splitFlags cs).1, (splitFlags cs).2)

/-- The flag of a name that stands in front, if there is one. -/
def bareFlag : List Char → List (String × Bool)
  | [] => []
  | name => [(String.ofList name, true)]

/-- The flags that characters set and clear, in order. -/
def flagsOf (cs : List Char) : List (String × Bool) :=
  bareFlag (splitFlags cs).1 ++ (splitFlags cs).2

/-- The flags that a text sets and clears, in order. -/
def decodeFlags (text : String) : List (String × Bool) :=
  flagsOf text.toList

theorem splitFlags_cons_sign {c : Char} (hc : isFlagSign c = true) (cs : List Char) :
    splitFlags (c :: cs) =
      ([], (String.ofList (splitFlags cs).1, c == '+') :: (splitFlags cs).2) := by
  rw [splitFlags, if_pos hc]

/-- Characters without a sign belong to the name in front. -/
theorem splitFlags_append {name : List Char} (hname : Unsigned name) (rest : List Char) :
    splitFlags (name ++ rest) = (name ++ (splitFlags rest).1, (splitFlags rest).2) := by
  induction name with
  | nil => rfl
  | cons c cs ih =>
    obtain ⟨hc, hcs⟩ := List.forall_mem_cons.1 hname
    rw [List.cons_append, splitFlags, if_neg (ne_true_of_eq_false hc), ih hcs, List.cons_append]

/-- What stands in front of a sign is read by itself. -/
theorem splitFlags_sign {c : Char} (hc : isFlagSign c = true) (before rest : List Char) :
    splitFlags (before ++ c :: rest) = ((splitFlags before).1,
      (splitFlags before).2 ++
        (String.ofList (splitFlags rest).1, c == '+') :: (splitFlags rest).2) := by
  induction before with
  | nil => exact splitFlags_cons_sign hc rest
  | cons d before ih =>
    rw [List.cons_append, splitFlags, splitFlags, ih]
    split
    · rfl
    · rfl

/-- Where a text begins with a sign or is empty, no name is in front. -/
theorem splitFlags_of_ends {after : List Char} (hends : ∀ c ∈ after.head?, isFlagSign c = true) :
    (splitFlags after).1 = [] := by
  cases after with
  | nil => rfl
  | cons c rest => rw [splitFlags_cons_sign (hends c rfl)]

theorem bareFlag_of_ne_nil {name : List Char} (hname : name ≠ []) :
    bareFlag name = [(String.ofList name, true)] := by
  cases name with
  | nil => exact absurd rfl hname
  | cons c cs => rfl

theorem flagsOf_sign {c : Char} (hc : isFlagSign c = true) (before rest : List Char) :
    flagsOf (before ++ c :: rest) =
      flagsOf before ++ (String.ofList (splitFlags rest).1, c == '+') :: (splitFlags rest).2 := by
  rw [flagsOf, splitFlags_sign hc, ← List.append_assoc]
  rfl

theorem flagsOf_ne_nil {cs : List Char} (hcs : cs ≠ []) : flagsOf cs ≠ [] := by
  cases cs with
  | nil => exact absurd rfl hcs
  | cons c cs =>
    rw [flagsOf, splitFlags]
    split
    · exact List.cons_ne_nil _ _
    · exact List.cons_ne_nil _ _

/-! ## Reading what was written -/

section Encoded

variable {flags : List (String × Bool)}

theorem toList_encodeLaterFlags_cons (name : String) (value : Bool) (rest : List (String × Bool)) :
    (encodeLaterFlags ((name, value) :: rest)).toList =
      (if value then '+' else '-') :: (name.toList ++ (encodeLaterFlags rest).toList) := by
  rw [encodeLaterFlags, String.toList_append, String.toList_append]
  cases value <;> rfl

/-- Flags behind the first one are read back. -/
theorem splitFlags_encodeLaterFlags (hnames : ∀ flag ∈ flags, IsFlagName flag.1) :
    splitFlags (encodeLaterFlags flags).toList = ([], flags) := by
  induction flags with
  | nil => rfl
  | cons flag rest ih =>
    obtain ⟨name, value⟩ := flag
    obtain ⟨hname, hrest⟩ := List.forall_mem_cons.1 hnames
    have hsign : isFlagSign (if value then '+' else '-') = true := by cases value <;> rfl
    have hvalue : ((if value then '+' else '-') == '+') = value := by cases value <;> rfl
    rw [toList_encodeLaterFlags_cons, splitFlags_cons_sign hsign,
      splitFlags_append hname.unsigned, ih hrest, hvalue, List.append_nil, String.ofList_toList]

/-- A text starts with the name of a true flag or with the sign of a false one. -/
theorem toList_encodeFlags_cons (name : String) (value : Bool) (rest : List (String × Bool)) :
    (encodeFlags ((name, value) :: rest)).toList =
      (if value then [] else ['-']) ++ (name.toList ++ (encodeLaterFlags rest).toList) := by
  rw [encodeFlags, String.toList_append, String.toList_append, List.append_assoc]
  cases value <;> rfl

/-- Flags are read back from their text, with their values and in their order. -/
theorem decodeFlags_encodeFlags (hnames : ∀ flag ∈ flags, IsFlagName flag.1) :
    decodeFlags (encodeFlags flags) = flags := by
  cases flags with
  | nil => rfl
  | cons flag rest =>
    obtain ⟨name, value⟩ := flag
    obtain ⟨hname, hrest⟩ := List.forall_mem_cons.1 hnames
    have hlater := splitFlags_encodeLaterFlags hrest
    have hsplit := splitFlags_append hname.unsigned (encodeLaterFlags rest).toList
    rw [hlater, List.append_nil] at hsplit
    rw [decodeFlags, flagsOf, toList_encodeFlags_cons]
    cases value with
    | true =>
      have hfront : name.toList ≠ [] := by
        simpa using hname.ne_empty
      rw [if_pos rfl, List.nil_append, hsplit, bareFlag_of_ne_nil hfront, String.ofList_toList,
        List.singleton_append]
    | false =>
      rw [if_neg Bool.false_ne_true, List.singleton_append, splitFlags_cons_sign rfl, hsplit,
        String.ofList_toList]
      rfl

/-- No text starts with the sign of a true flag. -/
theorem head?_encodeFlags_ne_plus (hnames : ∀ flag ∈ flags, IsFlagName flag.1) :
    (encodeFlags flags).toList.head? ≠ some '+' := by
  cases flags with
  | nil => exact nofun
  | cons flag rest =>
    obtain ⟨name, value⟩ := flag
    have hname := hnames (name, value) List.mem_cons_self
    rw [toList_encodeFlags_cons]
    cases value with
    | false => simp
    | true =>
      rw [if_pos rfl, List.nil_append, List.head?_append]
      intro hhead
      rcases Option.or_eq_some_iff.1 hhead with hfirst | ⟨hnone, -⟩
      · exact absurd (hname.unsigned '+' (List.mem_of_mem_head? hfirst)) (by decide)
      · exact hname.ne_empty (by simpa using hnone)

/-- Every name in a text is that of a flag.  It is behind the sign for the value of the flag, unless
the flag is the first one and true. -/
theorem NameAt.exists_flag (hnames : ∀ flag ∈ flags, IsFlagName flag.1)
    {before name after : List Char} (h : NameAt (encodeFlags flags).toList before name after) :
    ∃ earlier value later, flags = earlier ++ (String.ofList name, value) :: later ∧
      (before = [] ↔ earlier = [] ∧ value = true) ∧
        ∀ c ∈ before.getLast?, c = if value then '+' else '-' := by
  have hread := decodeFlags_encodeFlags hnames
  have hplus := head?_encodeFlags_ne_plus hnames
  have hsplit := splitFlags_append h.unsigned after
  rw [splitFlags_of_ends h.ends, List.append_nil] at hsplit
  rw [decodeFlags, h.eq] at hread
  rw [h.eq] at hplus
  rcases List.eq_nil_or_concat before with rfl | ⟨front, sign, rfl⟩
  · rw [List.nil_append, flagsOf, hsplit, bareFlag_of_ne_nil h.ne_nil] at hread
    exact ⟨[], true, (splitFlags after).2, hread.symm, by simp, nofun⟩
  · rw [List.concat_eq_append] at h hread hplus ⊢
    have hsign : isFlagSign sign = true := h.starts sign (by simp)
    rw [List.append_assoc, List.singleton_append] at hread hplus
    rw [flagsOf_sign hsign, hsplit] at hread
    refine ⟨flagsOf front, sign == '+', (splitFlags after).2, hread.symm, ?_, ?_⟩
    · -- No text starts with the sign of a true flag, so there is a flag in front of it.
      refine iff_of_false (by simp) ?_
      rintro ⟨hnone, hadded⟩
      rw [beq_iff_eq] at hadded
      subst hadded
      refine flagsOf_ne_nil ?_ hnone
      rintro rfl
      exact hplus rfl
    · intro c hc
      rw [List.getLast?_concat] at hc
      obtain rfl := Option.some.inj hc
      rcases Bool.or_eq_true_iff.1 hsign with hadded | hcleared
      · rw [hadded, if_pos rfl, beq_iff_eq.1 hadded]
      · rw [beq_iff_eq.1 hcleared]
        rfl

/-- Nothing is lost in the text of flags with names that can be told apart: the flags are read back
with their values and in their order, so no others have the same text, whatever the order.  Every
name in the text is that of a flag, and it stands without a sign only if the flag is the first one
and true. -/
theorem encodeFlags_lossless (hnames : ∀ flag ∈ flags, IsFlagName flag.1) :
    decodeFlags (encodeFlags flags) = flags ∧
      (∀ others : List (String × Bool), (∀ flag ∈ others, IsFlagName flag.1) → others ≠ flags →
        encodeFlags others ≠ encodeFlags flags) ∧
      ∀ before name after, NameAt (encodeFlags flags).toList before name after →
        ∃ earlier value later, flags = earlier ++ (String.ofList name, value) :: later ∧
          (before = [] ↔ earlier = [] ∧ value = true) ∧
            ∀ c ∈ before.getLast?, c = if value then '+' else '-' := by
  refine ⟨decodeFlags_encodeFlags hnames, ?_, fun _ _ _ hat => hat.exists_flag hnames⟩
  intro others hothers hne heq
  apply hne
  calc others = decodeFlags (encodeFlags others) := (decodeFlags_encodeFlags hothers).symm
    _ = decodeFlags (encodeFlags flags) := by rw [heq]
    _ = flags := decodeFlags_encodeFlags hnames

/-- Flags of which one is cleared between two that are set. -/
def describedFlags : List (String × Bool) :=
  [("visual_impaired", true), ("comment", false), ("default", true)]

/-- The same flags in another order have another text, in which the name in front is not bare. -/
theorem encodeFlags_lossless_reordered :
    (∀ flag ∈ describedFlags, IsFlagName flag.1) ∧
      encodeFlags describedFlags = "visual_impaired-comment+default" ∧
      decodeFlags "visual_impaired-comment+default" = describedFlags ∧
      encodeFlags describedFlags.reverse ≠ encodeFlags describedFlags ∧
      ∃ earlier value later,
        describedFlags = earlier ++ (String.ofList "comment".toList, value) :: later ∧
          ¬ (earlier = [] ∧ value = true) := by
  have hnames : ∀ flag ∈ describedFlags, IsFlagName flag.1 := by decide +kernel
  have hreversed : ∀ flag ∈ describedFlags.reverse, IsFlagName flag.1 := by decide +kernel
  have htext : encodeFlags describedFlags = "visual_impaired-comment+default" := by decide +kernel
  obtain ⟨hread, hothers, hplaces⟩ := encodeFlags_lossless hnames
  have hplace : NameAt (encodeFlags describedFlags).toList "visual_impaired-".toList
      "comment".toList "+default".toList := by
    have hbefore : "visual_impaired-".toList.getLast? = some '-' := by decide +kernel
    have hafter : "+default".toList.head? = some '+' := by decide +kernel
    refine ⟨by decide +kernel, by decide +kernel, by decide +kernel, ?_, ?_⟩
    · rw [hbefore]
      exact fun c hc => Option.some.inj hc ▸ rfl
    · rw [hafter]
      exact fun c hc => Option.some.inj hc ▸ rfl
  obtain ⟨earlier, value, later, hflags, hbare, -⟩ := hplaces _ _ _ hplace
  refine ⟨hnames, htext, htext ▸ hread, hothers _ hreversed (by decide +kernel), ?_⟩
  refine ⟨earlier, value, later, hflags, ?_⟩
  rw [← hbare]
  decide +kernel

end Encoded

end AudioPlan
