import AudioPlan.Proofs.Plan.Ceilings
import AudioPlan.Proofs.Title.Expansion

/-!
# Safe titles

Whatever goes into a title, the characters that break a command argument come out as look-alikes,
because they are replaced last.  Nothing else is touched on the way: a template in which no tag with
a value occurs comes out as it is, up to these characters (`expandTitle_safe`).

* `ArgumentSafe` is what a title is in the end, and `sanitize_safe` says so of every text;
* `expandTitle_of_no_tag` is about templates without a tag that has a value;
* `OperationBlock.exists_title` finds the title that an instruction sets.
-/

namespace AudioPlan

/-- A text with none of the characters that break a command argument. -/
def ArgumentSafe (s : String) : Prop :=
  ',' ∉ s.toList ∧ '"' ∉ s.toList

instance (s : String) : Decidable (ArgumentSafe s) :=
  inferInstanceAs (Decidable (_ ∧ _))

/-! ## Look-alikes -/

theorem safeCharacter_eq (c : Char) :
    safeCharacter c = if c = ',' then '\u201a' else if c = '"' then '\u2033' else c := by
  simp only [safeCharacter, unsafeCharacters, List.lookup_cons, List.lookup_nil, beq_eq_decide]
  by_cases hcomma : c = ','
  · simp [hcomma]
  · by_cases hquote : c = '"'
    · simp [hquote]
    · simp [hcomma, hquote]

/-- No character is its own look-alike, and no look-alike breaks an argument. -/
theorem safeCharacter_ne (c : Char) : safeCharacter c ≠ ',' ∧ safeCharacter c ≠ '"' := by
  rw [safeCharacter_eq]
  split
  · decide
  · rename_i hcomma
    split
    · decide
    · rename_i hquote
      exact ⟨hcomma, hquote⟩

theorem sanitize_safe (cs : List Char) : ArgumentSafe (String.ofList (sanitize cs)) := by
  unfold ArgumentSafe
  rw [String.toList_ofList, sanitize]
  constructor
  · intro hmem
    obtain ⟨c, -, hc⟩ := List.mem_map.1 hmem
    exact (safeCharacter_ne c).1 hc
  · intro hmem
    obtain ⟨c, -, hc⟩ := List.mem_map.1 hmem
    exact (safeCharacter_ne c).2 hc

/-! ## Titles -/

section Titles

variable {template : String} {t : Track} {operation : Option Operation}
  {pattern : Option TitlePattern} {outputChannels outputBitRate : Field (Option Int)}
  {title : String}

theorem expandTitle_argumentSafe
    (h : expandTitle template t operation pattern outputChannels outputBitRate = .ok title) :
    ArgumentSafe title := by
  obtain ⟨groups, tags, -, -, rfl⟩ := expandTitle_eq_ok h
  exact sanitize_safe _

/-- A template in which no tag with a value occurs is only made safe. -/
theorem expandTitle_of_no_tag {groups : List (String × String)} {tags : List Replacement}
    (h : expandTitle template t operation pattern outputChannels outputBitRate = .ok title)
    (hgroups : captureGroups t pattern = .ok groups)
    (htags : tagReplacements t operation outputChannels outputBitRate = .ok tags)
    (hnone : ∀ tag value, (tag, some value) ∈ titleTable groups tags →
      ¬ tag.toList <:+: template.toList) :
    title.toList = template.toList.map fun c =>
      if c = ',' then '\u201a' else if c = '"' then '\u2033' else c := by
  obtain ⟨groups', tags', hgroups', htags', rfl⟩ := expandTitle_eq_ok h
  rw [hgroups] at hgroups'
  rw [htags] at htags'
  cases hgroups'
  cases htags'
  rw [String.toList_ofList, substitute_of_not_infix hnone, sanitize]
  exact List.map_congr_left fun c _ => safeCharacter_eq c

end Titles

/-! ## Titles in a plan -/

theorem Titled.exists_expanded {t : Track} {rule : Rule} {operation : Operation}
    {channels bitRate : Field (Option Int)} {title : Option Value} {v : Value}
    (h : Titled t rule operation channels bitRate title) (hv : v ∈ title) :
    ∃ template s, expandTitle template t (some operation) rule.criteria.title channels bitRate =
      .ok s ∧ v = .text s := by
  cases h with
  | untitled => cases hv
  | titled _ _ htitle => exact ⟨_, _, htitle, (Option.some.inj hv).symm⟩

/-- An instruction that sets a title sets one that a template was expanded to. -/
theorem OperationBlock.exists_title {t : Track} {rule : Rule} {input output : Nat}
    {operation : Operation} {block : List Instruction}
    (h : OperationBlock t rule input output operation block) {i : Instruction} (hi : i ∈ block)
    (hkind : i.kind = .setTitle) :
    ∃ channels bitRate template s, expandTitle template t (some operation) rule.criteria.title
      channels bitRate = .ok s ∧ i.value = .text s := by
  have hvalue : i.value ∈ valuesOf .setTitle block :=
    List.mem_map_of_mem (List.mem_filter.2 ⟨hi, beq_iff_eq.2 hkind⟩)
  cases h with
  | @copy o title htitle =>
    have hmem : i.value ∈ title := by
      simpa [valuesOf_append, valuesOf_setting, valuesOf_opening] using hvalue
    exact ⟨_, _, htitle.exists_expanded hmem⟩
  | @transcode o codec channels bitRate title hcodec hchannels hbitRate htitle =>
    have hmem : i.value ∈ title := by
      simpa [valuesOf_append, valuesOf_setting, valuesOf_opening] using hvalue
    exact ⟨_, _, htitle.exists_expanded hmem⟩

theorem MadeBy.title_safe {rs : RuleSet} {t : Track} {input place output : Nat}
    {block : List Instruction} (h : MadeBy rs t input place output block) {i : Instruction}
    (hi : i ∈ block) (hkind : i.kind = .setTitle) :
    ∃ title, i.value = .text title ∧ ArgumentSafe title := by
  cases h.outputBlock with
  | unmatched =>
    simp only [opening, List.mem_cons, List.not_mem_nil, or_false] at hi
    rcases hi with rfl | rfl
    · cases hkind
    · cases hkind
  | operation _ _ hblock =>
    obtain ⟨channels, bitRate, template, title, htitle, hvalue⟩ := hblock.exists_title hi hkind
    exact ⟨title, hvalue, expandTitle_argumentSafe htitle⟩

/-- Titles are safe, and expansion is permissive.  Whatever the template, the track and the captured
text contain, a title has no comma and no double quote, and so has none every title that a plan
sets.  A template in which no tag with a value occurs gives the template with each comma and each
double quote replaced, and every other character, also of unknown tags, of tags without a value and
of single braces, as it stands. -/
theorem expandTitle_safe :
    (∀ (template : String) (t : Track) (operation : Option Operation)
      (pattern : Option TitlePattern) (outputChannels outputBitRate : Field (Option Int))
      (title : String),
      expandTitle template t operation pattern outputChannels outputBitRate = .ok title →
        ArgumentSafe title ∧
        ∃ groups tags, captureGroups t pattern = .ok groups ∧
          tagReplacements t operation outputChannels outputBitRate = .ok tags ∧
          ((∀ tag value, (tag, some value) ∈ titleTable groups tags →
              ¬ tag.toList <:+: template.toList) →
            title.toList = template.toList.map fun c =>
              if c = ',' then '\u201a' else if c = '"' then '\u2033' else c)) ∧
    ∀ (tracks : List Track) (rs : RuleSet) (others : List Track) (plan : Plan),
      (synthesize tracks rs others).outcome = .ok plan →
        ∀ i ∈ plan.instructions, i.kind = .setTitle →
          ∃ title, i.value = .text title ∧ ArgumentSafe title := by
  constructor
  · intro template t operation pattern outputChannels outputBitRate title h
    obtain ⟨groups, tags, hgroups, htags, -⟩ := expandTitle_eq_ok h
    exact ⟨expandTitle_argumentSafe h, groups, tags, hgroups, htags,
      expandTitle_of_no_tag h hgroups htags⟩
  · intro tracks rs others plan hplan i hi hkind
    obtain ⟨t, -, source, place, k, block, hmade, hi⟩ := synthesize_madeBy hplan hi
    exact hmade.title_safe hi hkind

/-- A rule that copies every track under its own title. -/
def ownTitleRules : RuleSet :=
  ⟨[{ criteria := { codecs := .all }, operations := [.copy { title := some "\x7btitle\x7d" }] }]⟩

/-- A number of no group, an unknown tag, one without a value and a brace by itself stay; the comma
in the title of a track is replaced where a plan sets that title again. -/
theorem expandTitle_safe_verbatim :
    let template := "\x7b2\x7d, \"\x7bnote\x7d\" \x7bi_bitrate\x7d \x7b"
    let words : TitlePattern := { pattern := "(\\w+)" }
    let title := "\x7b2\x7d\u201a \u2033\x7bnote\x7d\u2033 \x7bi_bitrate\x7d \x7b"
    expandTitle template cinemaTrack (some ac3Operation) (some words) (.known none)
        (.known none) = .ok title ∧
      ArgumentSafe title ∧
      (∃ groups tags, captureGroups cinemaTrack (some words) = .ok groups ∧
        tagReplacements cinemaTrack (some ac3Operation) (.known none) (.known none) = .ok tags ∧
        (∀ tag value, (tag, some value) ∈ titleTable groups tags →
          ¬ tag.toList <:+: template.toList) ∧
        title.toList = template.toList.map fun c =>
          if c = ',' then '\u201a' else if c = '"' then '\u2033' else c) ∧
      ∃ plan, (synthesize [cinemaTrack] ownTitleRules []).outcome = .ok plan ∧
        ∃ i ∈ plan.instructions, i.kind = .setTitle ∧
          ∃ title, i.value = .text title ∧ ArgumentSafe title := by
  intro template words title
  have htitle : expandTitle template cinemaTrack (some ac3Operation) (some words) (.known none)
      (.known none) = .ok title := eq_ok_of_toOption (by decide +kernel)
  have hseen : ((do
      let groups ← captureGroups cinemaTrack (some words)
      let tags ← tagReplacements cinemaTrack (some ac3Operation) (.known none) (.known none)
      return (titleTable groups tags).all fun r =>
        r.2.isNone || !Text.occursIn r.1.toList template.toList) :
          Except Fault Bool).toOption = some true := by
    decide +kernel
  have hset : ((synthesize [cinemaTrack] ownTitleRules []).outcome.toOption.map fun plan =>
      plan.instructions.any (·.kind == .setTitle)) = some true := by
    decide +kernel
  obtain ⟨hsafe, groups, tags, hgroups, htags, hverbatim⟩ :=
    expandTitle_safe.1 _ _ _ _ _ _ _ htitle
  have hnone : ∀ tag value, (tag, some value) ∈ titleTable groups tags →
      ¬ tag.toList <:+: template.toList := by
    have hall := eq_ok_of_toOption hseen
    rw [hgroups, htags] at hall
    intro tag value hmem hinfix
    have htag := List.all_eq_true.1 (Except.ok.inj hall) _ hmem
    rw [Text.occursIn_iff_infix.2 hinfix] at htag
    cases htag
  obtain ⟨plan, hplan, hany⟩ := exists_eq_ok_of_map hset
  obtain ⟨i, hi, hkind⟩ := List.any_eq_true.1 hany
  have hkind := beq_iff_eq.1 hkind
  exact ⟨htitle, hsafe, ⟨groups, tags, hgroups, htags, hnone, hverbatim hnone⟩, plan, hplan, i, hi,
    hkind, expandTitle_safe.2 _ _ _ _ hplan i hi hkind⟩

end AudioPlan
