import AudioPlan.Proofs.Log.Success
import AudioPlan.Proofs.Regex.Groups
import AudioPlan.Proofs.Title.Substitution
import AudioPlan.Proofs.Value.Entries
import AudioPlan.Proofs.Value.Fits

/-!
# Titles are made in one pass

The replacements that a title is made with are names in braces, all different: numbers for the
groups (`IsGroups`) and words for the properties (`tagNames`).  Where the texts that they come from
have no braces (`UnbracedTexts`), neither has any value, so the title is one pass over the template
in which the order of the replacements does not matter (`expandTitle_pass`).
-/

namespace AudioPlan

open Text

/-- The texts that properties come from have no braces.  A field that holds something else in place
of its text gives no text, so nothing is asked of it. -/
structure UnbracedTexts (t : Track) (operation : Option Operation) : Prop where
  title : ∀ s, t.title = .known s → Unbraced s.toList
  language : ∀ s, t.language = .known s → Unbraced s.toList
  codec : ∀ s, t.codec = .known (some s) → Unbraced s.toList
  layout : ∀ s, t.channelLayout = .known s → Unbraced s.toList
  target : ∀ o, operation = some (.transcode o) → Unbraced o.codec.toList

/-! ## Groups -/

/-- Texts without braces for tags with different numbers. -/
structure IsGroups (groups : List (String × String)) : Prop where
  tag : ∀ g ∈ groups, ∃ n, g.1 = groupTag n
  value : ∀ g ∈ groups, Unbraced g.2.toList
  nodup : (groups.map Prod.fst).Nodup

theorem IsGroups.put {groups : List (String × String)} (hgroups : IsGroups groups) {value : String}
    (hvalue : Unbraced value.toList) (n : Nat) :
    IsGroups (AudioPlan.put (groupTag n) value groups) where
  tag g hg := by
    rcases mem_put hg with rfl | hg
    · exact ⟨n, rfl⟩
    · exact hgroups.tag g hg
  value g hg := by
    rcases mem_put hg with rfl | hg
    · exact hvalue
    · exact hgroups.value g hg
  nodup := nodup_keys_put hgroups.nodup

theorem IsGroups.putGroups {found : List (Option String)} {groups : List (String × String)}
    (hgroups : IsGroups groups) (hfound : ∀ s, some s ∈ found → Unbraced s.toList) (n : Nat) :
    IsGroups (AudioPlan.putGroups n found groups) := by
  induction found generalizing groups n with
  | nil => exact hgroups
  | cons group rest ih =>
    have hvalue : Unbraced (group.getD "").toList := by
      cases group with
      | none => decide
      | some s => exact hfound s List.mem_cons_self
    exact ih (hgroups.put hvalue n) (fun s hs => hfound s (List.mem_cons_of_mem _ hs)) (n + 1)

theorem titleText_unbraced {t : Track} {title : String} (h : t.titleText = .ok title)
    (htitle : ∀ s, t.title = .known s → Unbraced s.toList) : Unbraced title.toList := by
  rw [Track.titleText] at h
  split at h
  · cases h
    exact htitle _ ‹_›
  · split at h
    · exact nomatch h
    · cases h
      decide

theorem captureGroups_isGroups {t : Track} {pattern : Option TitlePattern}
    {groups : List (String × String)} (h : captureGroups t pattern = .ok groups)
    (htitle : ∀ s, t.title = .known s → Unbraced s.toList) : IsGroups groups := by
  have hempty : IsGroups [] := ⟨nofun, nofun, List.nodup_nil⟩
  cases pattern with
  | none =>
    cases h
    exact hempty
  | some pattern =>
    obtain ⟨r, -, h⟩ := bind_eq_ok.1 h
    obtain ⟨title, hread, h⟩ := bind_eq_ok.1 h
    cases h
    have hunbraced := titleText_unbraced hread htitle
    have hmatches : ∀ m ∈ r.findAll title, ∀ s, some s ∈ m.groups → Unbraced s.toList :=
      fun m hm s hs => hunbraced.of_subset (Regex.findAll_groups hm s hs)
    generalize r.findAll title = found at hmatches
    clear hread
    -- The last match wins, so the groups of all of them are followed from the first on.
    have hall : ∀ groups, IsGroups groups →
        IsGroups (found.foldl (fun groups m => putGroups 1 m.groups groups) groups) := by
      induction found with
      | nil => exact fun groups hgroups => hgroups
      | cons m found ih =>
        obtain ⟨hm, hfound⟩ := List.forall_mem_cons.1 hmatches
        exact fun groups hgroups => ih hfound _ (hgroups.putGroups hm 1)
    exact hall [] hempty

/-! ## Numbers -/

theorem writeInt_unbraced {n : Int} {s : String} (h : Text.writeInt n = .ok s) :
    Unbraced s.toList := by
  obtain ⟨-, rfl⟩ := Text.writeInt_eq_ok_iff.1 h
  exact toString_int_unbraced n

theorem fancyChannels_unbraced {n : Int} {s : String} (h : fancyChannels n = .ok s) :
    Unbraced s.toList := by
  rw [fancyChannels] at h
  split at h
  · cases h
    decide
  · split at h
    · cases h
      decide
    · obtain ⟨number, hnumber, rfl⟩ := map_eq_ok.1 h
      exact (writeInt_unbraced hnumber).toList_append (by decide)

theorem thousandsText_unbraced {x : Binary64} {s : String} (h : thousandsText x = .ok s) :
    Unbraced s.toList := by
  rw [thousandsText.eq_def] at h
  split at h
  · exact nomatch h
  · split at h
    · cases h
      exact toString_int_unbraced _
    · cases h
      exact Binary64.render_unbraced x

theorem isNumber_of_equalsInt {v : Value} {n : Int} (h : v.equalsInt n = true) :
    v.isNumber = true := by
  rw [Value.equalsInt, beq_iff_eq] at h
  cases v with
  | bool | int | float => rfl
  | _ => exact nomatch h

theorem foreignFancy_eq_ok {v : Value} {s : String} (h : foreignFancy v = .ok s) :
    v.isNumber = true ∧ Unbraced s.toList := by
  rw [foreignFancy.eq_def] at h
  split at h
  · rename_i hone
    cases h
    exact ⟨isNumber_of_equalsInt hone, by decide⟩
  · split at h
    · rename_i htwo
      cases h
      exact ⟨isNumber_of_equalsInt htwo, by decide⟩
    · split at h
      · exact ⟨rfl, fancyChannels_unbraced h⟩
      · cases h
        exact ⟨rfl, (Binary64.render_unbraced _).toList_append (by decide)⟩
      · exact nomatch h

theorem foreignKilobits_eq_ok {v : Value} {s : String} (h : foreignKilobits v = .ok s) :
    v.isNumber = true ∧ Unbraced s.toList := by
  rw [foreignKilobits.eq_def] at h
  split at h
  · exact ⟨rfl, thousandsText_unbraced h⟩
  · exact ⟨rfl, thousandsText_unbraced h⟩
  · cases h
    exact ⟨rfl, Binary64.render_unbraced _⟩
  · exact nomatch h

section NumberTag

variable {number : Field (Option Int)} {text : Int → Except Fault String}
  {foreign : Value → Except Fault String} {r : Option String}

/-- The text of a number has no braces where neither of its two forms has. -/
theorem numberTag_unbraced (h : numberTag number text foreign = .ok r)
    (htext : ∀ n s, text n = .ok s → Unbraced s.toList)
    (hforeign : ∀ v s, number = .foreign v → v.given = true → foreign v = .ok s →
      Unbraced s.toList) :
    ∀ s, r = some s → Unbraced s.toList := by
  rintro s rfl
  rw [numberTag.eq_def] at h
  split at h
  · split at h
    · exact nomatch h
    · obtain ⟨_, hs, ⟨⟩⟩ := map_eq_ok.1 h
      exact htext _ _ hs
  · exact nomatch h
  · split at h
    · obtain ⟨_, hs, ⟨⟩⟩ := map_eq_ok.1 h
      exact hforeign _ _ rfl ‹_› hs
    · exact nomatch h

/-- A foreign value that is given has a text where a number has a tag. -/
theorem exists_foreign_of_numberTag {v : Value} (h : numberTag number text foreign = .ok r)
    (hnumber : number = .foreign v) (hgiven : v.given = true) : ∃ s, foreign v = .ok s := by
  rw [hnumber, numberTag, if_pos hgiven] at h
  obtain ⟨s, hs, -⟩ := map_eq_ok.1 h
  exact ⟨s, hs⟩

/-- A number by itself, where the same number has another form that is for numbers only. -/
theorem plainTag_unbraced {r' : Option String}
    (h : numberTag number Text.writeInt Value.written = .ok r)
    (hother : numberTag number text foreign = .ok r')
    (hforeign : ∀ v s, foreign v = .ok s → v.isNumber = true) :
    ∀ s, r = some s → Unbraced s.toList := by
  refine numberTag_unbraced h (fun _ _ hs => writeInt_unbraced hs) ?_
  intro v s hnumber hgiven hs
  obtain ⟨-, rfl⟩ := Value.written_eq_ok_iff.1 hs
  obtain ⟨s, hs⟩ := exists_foreign_of_numberTag hother hnumber hgiven
  exact Value.toText_unbraced (hforeign v s hs)

theorem fancyTag_unbraced
    (h : numberTag number fancyChannels foreignFancy = .ok r) :
    ∀ s, r = some s → Unbraced s.toList :=
  numberTag_unbraced h (fun _ _ hs => fancyChannels_unbraced hs)
    fun _ _ _ _ hs => (foreignFancy_eq_ok hs).2

theorem thousandsTag_unbraced (h : numberTag number kilobits foreignKilobits = .ok r) :
    ∀ s, r = some s → Unbraced s.toList :=
  numberTag_unbraced h (fun _ _ hs => thousandsText_unbraced hs)
    fun _ _ _ _ hs => (foreignKilobits_eq_ok hs).2

end NumberTag

/-! ## Properties -/

/-- The tags of the properties. -/
def tagNames : List String :=
  ["\x7btitle\x7d", "\x7blang\x7d", "\x7bLANG\x7d", "\x7bi_codec\x7d", "\x7bi_CODEC\x7d",
    "\x7bo_codec\x7d", "\x7bo_CODEC\x7d", "\x7bi_channels\x7d", "\x7bi_channels_fancy\x7d",
    "\x7bi_channel_layout\x7d", "\x7bo_channels\x7d", "\x7bo_channels_fancy\x7d",
    "\x7bi_bitrate\x7d", "\x7bi_bitrate_kbps\x7d", "\x7bo_bitrate\x7d",
    "\x7bo_bitrate_kbps\x7d"]

theorem fieldText_unbraced {field : Field String} {fault : Fault} {s : String}
    (h : fieldText field fault = .ok s) (hfield : ∀ s, field = .known s → Unbraced s.toList) :
    Unbraced s.toList := by
  rw [fieldText.eq_def] at h
  split at h
  · cases h
    exact hfield _ rfl
  · split at h
    · exact nomatch h
    · cases h
      decide

theorem languageOrUnd_unbraced {t : Track}
    (hlanguage : ∀ s, t.language = .known s → Unbraced s.toList) :
    ∀ s, t.languageOrUnd = .known s → Unbraced s.toList := by
  intro s h
  rw [Track.languageOrUnd] at h
  split at h
  · rename_i language hknown
    cases h
    split
    · decide
    · exact hlanguage language hknown
  · split at h
    · exact nomatch h
    · cases h
      decide

theorem codecText_unbraced {t : Track} {s : String} (h : t.codecText = .ok s)
    (hcodec : ∀ s, t.codec = .known (some s) → Unbraced s.toList) : Unbraced s.toList := by
  rw [Track.codecText] at h
  split at h
  · rename_i codec hknown
    cases h
    cases codec with
    | none => decide
    | some s => exact hcodec s hknown
  · split at h
    · exact nomatch h
    · cases h
      decide

theorem outputCodec_unbraced {t : Track} {operation : Option Operation} {s : String}
    (h : outputCodec t operation = .ok s) (htexts : UnbracedTexts t operation) :
    Unbraced s.toList := by
  rw [outputCodec.eq_def] at h
  split at h
  · split at h
    · exact codecText_unbraced h htexts.codec
    · cases h
      exact htexts.target _ rfl
  · exact codecText_unbraced h htexts.codec

theorem unbraced_of_some_eq {s : String} (hs : Unbraced s.toList) :
    ∀ value, some s = some value → Unbraced value.toList := by
  rintro _ ⟨⟩
  exact hs

/-- The replacements for the properties are the tags with values without braces. -/
theorem tagReplacements_eq_ok {t : Track} {operation : Option Operation}
    {outputChannels outputBitRate : Field (Option Int)} {tags : List Replacement}
    (h : tagReplacements t operation outputChannels outputBitRate = .ok tags)
    (htexts : UnbracedTexts t operation) :
    tags.map Prod.fst = tagNames ∧
      ∀ r ∈ tags, ∀ value, r.2 = some value → Unbraced value.toList := by
  rw [tagReplacements] at h
  obtain ⟨language, hlanguage, h⟩ := bind_eq_ok.1 h
  obtain ⟨codec, hcodec, h⟩ := bind_eq_ok.1 h
  obtain ⟨newCodec, hnewCodec, h⟩ := bind_eq_ok.1 h
  obtain ⟨inChannels, hinChannels, h⟩ := bind_eq_ok.1 h
  obtain ⟨inFancy, hinFancy, h⟩ := bind_eq_ok.1 h
  obtain ⟨outChannels, houtChannels, h⟩ := bind_eq_ok.1 h
  obtain ⟨outFancy, houtFancy, h⟩ := bind_eq_ok.1 h
  obtain ⟨inBitRate, hinBitRate, h⟩ := bind_eq_ok.1 h
  obtain ⟨inThousands, hinThousands, h⟩ := bind_eq_ok.1 h
  obtain ⟨outBitRate, houtBitRate, h⟩ := bind_eq_ok.1 h
  obtain ⟨outThousands, houtThousands, h⟩ := bind_eq_ok.1 h
  obtain ⟨title, htitle, h⟩ := bind_eq_ok.1 h
  obtain ⟨layout, hlayout, h⟩ := bind_eq_ok.1 h
  cases h
  have hlanguage' := fieldText_unbraced hlanguage (languageOrUnd_unbraced htexts.language)
  have hcodec' := codecText_unbraced hcodec htexts.codec
  have hnewCodec' := outputCodec_unbraced hnewCodec htexts
  have hlayout' := fieldText_unbraced hlayout htexts.layout
  have hlayoutTag : ∀ value, (if layout.isEmpty then none else some layout) = some value →
      Unbraced value.toList := by
    intro value hvalue
    split at hvalue
    · exact nomatch hvalue
    · exact unbraced_of_some_eq hlayout' value hvalue
  have hfancy := fun v s (h : foreignFancy v = .ok s) => (foreignFancy_eq_ok h).1
  have hthousands := fun v s (h : foreignKilobits v = .ok s) => (foreignKilobits_eq_ok h).1
  refine ⟨rfl, ?_⟩
  simp only [List.forall_mem_cons]
  exact ⟨unbraced_of_some_eq (fieldText_unbraced htitle htexts.title),
    unbraced_of_some_eq (lowerText_unbraced hlanguage'),
    unbraced_of_some_eq (upperText_unbraced hlanguage'),
    unbraced_of_some_eq (lowerText_unbraced hcodec'),
    unbraced_of_some_eq (upperText_unbraced hcodec'),
    unbraced_of_some_eq (lowerText_unbraced hnewCodec'),
    unbraced_of_some_eq (upperText_unbraced hnewCodec'),
    plainTag_unbraced hinChannels hinFancy hfancy, fancyTag_unbraced hinFancy,
    hlayoutTag,
    plainTag_unbraced houtChannels houtFancy hfancy, fancyTag_unbraced houtFancy,
    plainTag_unbraced hinBitRate hinThousands hthousands, thousandsTag_unbraced hinThousands,
    plainTag_unbraced houtBitRate houtThousands hthousands, thousandsTag_unbraced houtThousands,
    nofun⟩

/-! ## Titles -/

/-- The number in the tag of a group is written in digits. -/
theorem toList_groupTag (n : Nat) : (groupTag n).toList = bracedTag (Nat.toDigits 10 n) := by
  rw [groupTag, String.toList_append, String.toList_append,
    show (toString n).toList = Nat.toDigits 10 n from Nat.toList_repr]
  rfl

theorem groupTag_not_mem (n : Nat) : groupTag n ∉ tagNames := by
  have hword : ∀ tag ∈ tagNames, (tag.toList.tail.head?.any isPlainDigit) = false := by decide
  obtain ⟨d, ds, hdigits, hd⟩ := exists_toDigits_eq_cons n
  intro hmem
  have hfirst := hword _ hmem
  rw [toList_groupTag, hdigits, bracedTag] at hfirst
  simp [hd] at hfirst

theorem exists_name_of_mem {tag : String} (htag : tag ∈ tagNames) :
    ∃ name, Unbraced name ∧ tag.toList = bracedTag name := by
  have hall : ∀ tag ∈ tagNames, Unbraced tag.toList.tail.dropLast ∧
      tag.toList = bracedTag tag.toList.tail.dropLast := by decide +kernel
  exact ⟨_, hall tag htag⟩

/-- The replacements for a title, in the order in which they are made. -/
def titleTable (groups : List (String × String)) (tags : List Replacement) : List Replacement :=
  (groups.map fun (tag, value) => (tag, some value)) ++ tags

theorem titleTable_isTable {groups : List (String × String)} {tags : List Replacement}
    (hgroups : IsGroups groups) (htags : tags.map Prod.fst = tagNames)
    (hvalues : ∀ r ∈ tags, ∀ value, r.2 = some value → Unbraced value.toList) :
    IsTable (titleTable groups tags) where
  tag r hr := by
    rcases List.mem_append.1 hr with hr | hr
    · obtain ⟨g, hg, rfl⟩ := List.mem_map.1 hr
      obtain ⟨n, hn⟩ := hgroups.tag g hg
      exact ⟨_, toDigits_unbraced n, hn ▸ toList_groupTag n⟩
    · exact exists_name_of_mem (htags ▸ List.mem_map_of_mem hr)
  value r hr := by
    rcases List.mem_append.1 hr with hr | hr
    · obtain ⟨g, hg, rfl⟩ := List.mem_map.1 hr
      exact unbraced_of_some_eq (hgroups.value g hg)
    · exact hvalues r hr
  nodup := by
    have hkeys : (groups.map fun (tag, value) => (tag, some value)).map Prod.fst =
        groups.map Prod.fst := by
      rw [List.map_map]
      rfl
    rw [titleTable, List.map_append, hkeys, htags]
    refine List.nodup_append.2 ⟨hgroups.nodup, by decide, ?_⟩
    rintro tag htag _ hname rfl
    obtain ⟨g, hg, rfl⟩ := List.mem_map.1 htag
    obtain ⟨n, hn⟩ := hgroups.tag g hg
    exact groupTag_not_mem n (hn ▸ hname)

theorem substitute_append (text : List Char) (first second : List Replacement) :
    substitute text (first ++ second) = substitute (substitute text first) second :=
  List.foldl_append

theorem expandTitle_eq_ok {template : String} {t : Track} {operation : Option Operation}
    {pattern : Option TitlePattern} {outputChannels outputBitRate : Field (Option Int)}
    {title : String}
    (h : expandTitle template t operation pattern outputChannels outputBitRate = .ok title) :
    ∃ groups tags, captureGroups t pattern = .ok groups ∧
      tagReplacements t operation outputChannels outputBitRate = .ok tags ∧
      title = String.ofList (sanitize (substitute template.toList (titleTable groups tags))) := by
  obtain ⟨groups, hgroups, h⟩ := bind_eq_ok.1 h
  obtain ⟨tags, htags, h⟩ := bind_eq_ok.1 h
  cases h
  exact ⟨groups, tags, hgroups, htags, by rw [titleTable, substitute_append]⟩

/-- A title is what a single pass makes of its template, put in safe characters.  In whatever order
the replacements are made, it is the same. -/
theorem expandTitle_pass {template : String} {t : Track} {operation : Option Operation}
    {pattern : Option TitlePattern} {outputChannels outputBitRate : Field (Option Int)}
    {title : String} (htemplate : BracesApart template.toList)
    (htexts : UnbracedTexts t operation)
    (h : expandTitle template t operation pattern outputChannels outputBitRate = .ok title) :
    ∃ groups tags, captureGroups t pattern = .ok groups ∧
      tagReplacements t operation outputChannels outputBitRate = .ok tags ∧
      (∃ text, (∀ out, Substituted (titleTable groups tags) template.toList out ↔ out = text) ∧
        title = String.ofList (sanitize text)) ∧
      ∀ table, table.Perm (titleTable groups tags) →
        String.ofList (sanitize (substitute template.toList table)) = title := by
  obtain ⟨groups, tags, hgroups, htags, rfl⟩ := expandTitle_eq_ok h
  obtain ⟨hnames, hvalues⟩ := tagReplacements_eq_ok htags htexts
  have htable := titleTable_isTable (captureGroups_isGroups hgroups htexts.title) hnames hvalues
  refine ⟨groups, tags, hgroups, htags, ⟨_, fun out => htable.substituted_iff htemplate, rfl⟩, ?_⟩
  intro table hperm
  rw [htable.substitute_perm hperm htemplate]

/-- A track of six channels, with a title to search and no bit rate. -/
def cinemaTrack : Track :=
  { codec := .known (some "dts"), channels := .known 6, title := .known "Main, uncut" }

def ac3Operation : Operation :=
  .transcode { codec := "ac3" }

/-- The last word of a title goes into its place; an unknown tag and one without a value stay. -/
theorem expandTitle_pass_uncut :
    let template := "\x7b1\x7d, \x7bi_channels_fancy\x7d \x7bnote\x7d" ++
      "\x7bi_bitrate\x7d \x7d\x7bo_CODEC\x7d \x7b"
    let words : TitlePattern := { pattern := "(\\w+)" }
    let title := "uncut\u201a 5.1 \x7bnote\x7d\x7bi_bitrate\x7d \x7dAC3 \x7b"
    BracesApart template.toList ∧ UnbracedTexts cinemaTrack (some ac3Operation) ∧
      expandTitle template cinemaTrack (some ac3Operation) (some words) (.known none)
        (.known none) = .ok title ∧
      ∃ groups tags, captureGroups cinemaTrack (some words) = .ok groups ∧
        tagReplacements cinemaTrack (some ac3Operation) (.known none) (.known none) = .ok tags ∧
        (∃ text, (∀ out, Substituted (titleTable groups tags) template.toList out ↔ out = text) ∧
          title = String.ofList (sanitize text)) ∧
        ∀ table, table.Perm (titleTable groups tags) →
          String.ofList (sanitize (substitute template.toList table)) = title := by
  intro template words title
  have htemplate : BracesApart template.toList := by decide +kernel
  have htexts : UnbracedTexts cinemaTrack (some ac3Operation) := by
    constructor
    · rintro _ ⟨⟩
      decide
    · rintro _ ⟨⟩
      decide
    · rintro _ ⟨⟩
      decide
    · rintro _ ⟨⟩
      decide
    · rintro _ ⟨⟩
      decide
  have htitle : expandTitle template cinemaTrack (some ac3Operation) (some words) (.known none)
      (.known none) = .ok title := eq_ok_of_toOption (by decide +kernel)
  exact ⟨htemplate, htexts, htitle, expandTitle_pass htemplate htexts htitle⟩

end AudioPlan
