import AudioPlan.Proofs.Track.Report
import AudioPlan.Proofs.Value.Entries

/-!
# Tags in any letter case

The containers of media files spell the names of tags as they please, so a tag is looked for by its
name and then by its name in any letter case (`TagOf`).  Where no two names are the same but for
case, the two ways never disagree: what is read depends on the tags with their names folded
(`foldedTags`) and not on the order in which they stand.

* `lookup_foldedTags` and `tagNamed_of_distinct` say so of tags by themselves, and
  `SameTags.tagNamed_eq` of tags that are the same but for case and order;
* `readTrack_alike`, `readTracks_alike` and `Probe.read_alike` carry this over to streams and to
  reports;
* `tags_caseless` puts them together.
-/

namespace AudioPlan

/-! ## Looking for a tag -/

/-- Whether a tag has a name, in any letter case. -/
def tagIsNamed (name : String) (tag : String × Value) : Bool :=
  Text.foldText tag.1 == Text.foldText name

/-- Tags with their names in the form in which names are compared. -/
def foldedTags (tags : List (String × Value)) : List (String × Value) :=
  tags.map fun tag => (Text.foldText tag.1, tag.2)

/-- The value of a tag with a name: of the one that has exactly that name, else of the first one
that has it in another letter case, and null where there is none. -/
inductive TagOf (name : String) (tags : List (String × Value)) : Value → Prop where
  | exact {v : Value} (h : (name, v) ∈ tags) : TagOf name tags v
  | folded {before after : List (String × Value)} {key : String} {v : Value}
      (hnone : name ∉ tags.map Prod.fst) (htags : tags = before ++ (key, v) :: after)
      (hkey : Text.foldText key = Text.foldText name)
      (hfirst : ∀ tag ∈ before, Text.foldText tag.1 ≠ Text.foldText name) : TagOf name tags v
  | absent (h : ∀ tag ∈ tags, Text.foldText tag.1 ≠ Text.foldText name) : TagOf name tags .null

/-- Tags whose names differ in more than letter case, and which are the same as others but for the
letter case of their names and for their order. -/
structure SameTags (tags others : List (String × Value)) : Prop where
  distinct : ((foldedTags tags).map Prod.fst).Nodup
  perm : (foldedTags tags).Perm (foldedTags others)

theorem tagIsNamed_eq_of_fold_eq {name key : String}
    (hname : Text.foldText name = Text.foldText key) : tagIsNamed name = tagIsNamed key := by
  funext tag
  rw [tagIsNamed, tagIsNamed, hname]

theorem tagNamed_eq (name : String) (tags : List (String × Value)) :
    tagNamed name tags =
      ((tags.lookup name).or ((tags.find? (tagIsNamed name)).map Prod.snd)).getD .null := by
  unfold tagNamed
  cases tags.lookup name with
  | some v => rfl
  | none =>
    show _ = ((tags.find? fun tag => Text.foldText tag.1 == Text.foldText name).map _).getD _
    cases tags.find? fun tag => Text.foldText tag.1 == Text.foldText name <;> rfl

/-- A tag is found among those with its name in any letter case. -/
theorem tagNamed_filter (name : String) (tags : List (String × Value)) :
    tagNamed name (tags.filter (tagIsNamed name)) = tagNamed name tags := by
  have hlookup : (tags.filter (tagIsNamed name)).lookup name = tags.lookup name :=
    lookup_filter_key (p := fun key => Text.foldText key == Text.foldText name) (beq_self_eq_true _)
  have hfind : (tags.filter (tagIsNamed name)).find? (tagIsNamed name) =
      tags.find? (tagIsNamed name) := by
    rw [List.find?_filter]
    simp only [and_self, Bool.decide_eq_true]
  rw [tagNamed_eq, tagNamed_eq, hlookup, hfind]

section Tags

variable {tags others : List (String × Value)} {name : String} {v : Value}

/-- The first tag with a name in any letter case is the first one with the folded name. -/
theorem lookup_foldedTags (name : String) (tags : List (String × Value)) :
    (foldedTags tags).lookup (Text.foldText name) =
      (tags.find? (tagIsNamed name)).map Prod.snd := by
  induction tags with
  | nil => rfl
  | cons tag rest ih =>
    obtain ⟨key, v⟩ := tag
    rw [foldedTags, List.map_cons, lookup_cons_ite, List.find?_cons, tagIsNamed]
    by_cases hkey : Text.foldText name = Text.foldText key
    · rw [if_pos hkey, hkey, beq_self_eq_true]
      rfl
    · rw [if_neg hkey, beq_false_of_ne (Ne.symm hkey)]
      exact ih

theorem mem_foldedTags {key : String} (h : (key, v) ∈ tags) :
    (Text.foldText key, v) ∈ foldedTags tags :=
  List.mem_map.2 ⟨(key, v), h, rfl⟩

/-- Where names differ in more than letter case, the exact name finds no other tag. -/
theorem tagNamed_of_distinct (hdistinct : ((foldedTags tags).map Prod.fst).Nodup) (name : String) :
    tagNamed name tags = ((foldedTags tags).lookup (Text.foldText name)).getD .null := by
  rw [tagNamed_eq, ← lookup_foldedTags]
  cases hexact : tags.lookup name with
  | none => rw [Option.none_or]
  | some v =>
    rw [Option.some_or,
      (lookup_eq_some_iff_mem hdistinct).2 (mem_foldedTags (mem_of_lookup_eq_some hexact))]

theorem tagNamed_eq_of_mem (hdistinct : ((foldedTags tags).map Prod.fst).Nodup) {key : String}
    (hmem : (key, v) ∈ tags) (hkey : Text.foldText key = Text.foldText name) :
    tagNamed name tags = v := by
  have hfolded := mem_foldedTags hmem
  rw [hkey] at hfolded
  rw [tagNamed_of_distinct hdistinct, (lookup_eq_some_iff_mem hdistinct).2 hfolded,
    Option.getD_some]

theorem tagNamed_eq_null (h : ∀ tag ∈ tags, Text.foldText tag.1 ≠ Text.foldText name) :
    tagNamed name tags = .null := by
  have hfind : tags.find? (tagIsNamed name) = none := by
    rw [List.find?_eq_none]
    intro tag htag
    rw [tagIsNamed, beq_iff_eq]
    exact h tag htag
  have hlookup : tags.lookup name = none := by
    rw [lookup_eq_none_iff_forall_ne]
    rintro tag htag rfl
    exact h tag htag rfl
  rw [tagNamed_eq, hfind, hlookup]
  rfl

/-- What is read under a name is its tag. -/
theorem tagOf_tagNamed (name : String) (tags : List (String × Value)) :
    TagOf name tags (tagNamed name tags) := by
  rw [tagNamed_eq]
  cases hexact : tags.lookup name with
  | some v => exact .exact (mem_of_lookup_eq_some hexact)
  | none =>
    rw [Option.none_or]
    cases hfind : tags.find? (tagIsNamed name) with
    | none =>
      refine .absent fun tag htag heq => ?_
      exact List.find?_eq_none.1 hfind tag htag (beq_iff_eq.2 heq)
    | some tag =>
      obtain ⟨hnamed, before, after, htags, hbefore⟩ := List.find?_eq_some_iff_append.1 hfind
      refine .folded ?_ htags (beq_iff_eq.1 hnamed) fun other hother heq => ?_
      · intro hmem
        obtain ⟨other, hother, hname⟩ := List.mem_map.1 hmem
        exact lookup_eq_none_iff_forall_ne.1 hexact other hother hname
      · have hneg := hbefore other hother
        rw [tagIsNamed, beq_iff_eq.2 heq] at hneg
        exact Bool.false_ne_true hneg

/-- A mapping has no more than one tag with a name. -/
theorem TagOf.tagNamed_eq (hkeys : (tags.map Prod.fst).Nodup) (h : TagOf name tags v) :
    tagNamed name tags = v := by
  cases h with
  | exact hmem =>
    rw [AudioPlan.tagNamed_eq, (lookup_eq_some_iff_mem hkeys).2 hmem]
    rfl
  | @folded before after key _ hnone htags hkey hfirst =>
    have hfind : tags.find? (tagIsNamed name) = some (key, v) := by
      rw [htags, List.find?_append, List.find?_eq_none.2, Option.none_or, List.find?_cons_of_pos]
      · rw [tagIsNamed, beq_iff_eq]
        exact hkey
      · intro tag htag
        rw [tagIsNamed, beq_iff_eq]
        exact hfirst tag htag
    rw [AudioPlan.tagNamed_eq, lookup_eq_none_of_not_mem hnone, hfind]
    rfl
  | absent hnone => exact tagNamed_eq_null hnone

/-- Tags that are only in another order are the same. -/
theorem SameTags.of_perm (hdistinct : ((foldedTags tags).map Prod.fst).Nodup)
    (hperm : tags.Perm others) : SameTags tags others :=
  ⟨hdistinct, hperm.map _⟩

/-- Neither the letter case of names nor their order matters to what is read. -/
theorem SameTags.tagNamed_eq (h : SameTags tags others) {name' : String}
    (hname : Text.foldText name = Text.foldText name') :
    tagNamed name tags = tagNamed name' others := by
  have hothers : ((foldedTags others).map Prod.fst).Nodup :=
    (h.perm.map Prod.fst).nodup_iff.1 h.distinct
  rw [tagNamed_of_distinct h.distinct, tagNamed_of_distinct hothers, ← hname,
    lookup_eq_of_perm h.distinct h.perm]

end Tags

/-! ## Streams and reports -/

/-- What reports have for tags: the same tags but for letter case and order, or nothing. -/
inductive TagsAlike : Value → Value → Prop where
  | same {tags others : List (String × Value)} (h : SameTags tags others) :
      TagsAlike (.map tags) (.map others)
  | absent {v w : Value} (hv : v.given = false) (hw : w.given = false) : TagsAlike v w

/-- Parts of reports that agree but for their tags, which are alike. -/
inductive AlikeButTags : Value → Value → Prop where
  | mapping {part other : List (String × Value)}
      (hrest : ∀ key, key ≠ "tags" → Value.get key part = Value.get key other)
      (htags : TagsAlike (Value.get "tags" part) (Value.get "tags" other)) :
      AlikeButTags (.map part) (.map other)
  | foreign {v : Value} (hv : ¬ v.IsObject) : AlikeButTags v v

/-- Reports that agree but for the tags of the file and of its streams, which are alike.  Streams
may also be just the same, whatever their tags. -/
structure ReportsAlike (report other : List (String × Value)) : Prop where
  format : AlikeButTags (Value.get "format" report) (Value.get "format" other)
  streams : ∃ streams others, Value.get "streams" report = .list streams ∧
    Value.get "streams" other = .list others ∧
      List.Forall₂ (fun v w => v = w ∨ AlikeButTags v w) streams others

theorem TagsAlike.readTag_eq {tags others : Value} (h : TagsAlike tags others)
    {name name' : String} (hname : Text.foldText name = Text.foldText name') :
    readTag tags name = readTag others name' := by
  cases h with
  | same h => rw [readTag_map, readTag_map, h.tagNamed_eq hname]
  | absent hv hw =>
    have hnone : ∀ {v : Value} (name : String), v.given = false → readTag v name = .ok .null := by
      intro v name hv
      unfold readTag
      rw [hv]
      rfl
    rw [hnone name hv, hnone name' hw]

/-- A stream is read from its parts, and its tags by their names in any letter case. -/
theorem readTrack_alike {stream other : List (String × Value)}
    (hrest : ∀ key, key ≠ "tags" → Value.get key stream = Value.get key other)
    (htags : TagsAlike (Value.get "tags" stream) (Value.get "tags" other)) :
    readTrack stream = readTrack other := by
  unfold readTrack
  rw [hrest "index" (by decide), hrest "codec_type" (by decide), hrest "codec_name" (by decide),
    hrest "channels" (by decide), hrest "bit_rate" (by decide), hrest "disposition" (by decide),
    hrest "channel_layout" (by decide)]
  simp only [htags.readTag_eq rfl]

theorem readTracks_cons_congr {streams others : List Value}
    (h : ∀ seen, readTracks seen streams = readTracks seen others) (seen : List Int) (v : Value) :
    readTracks seen (v :: streams) = readTracks seen (v :: others) := by
  cases v with
  | map entries =>
    rw [readTracks, readTracks]
    simp only [h]
  | _ => simp only [readTracks, h]

theorem readTracks_alike {streams others : List Value}
    (h : List.Forall₂ (fun v w => v = w ∨ AlikeButTags v w) streams others) (seen : List Int) :
    readTracks seen streams = readTracks seen others := by
  induction h generalizing seen with
  | nil => rfl
  | @cons v w streams others hvw _ ih =>
    rcases hvw with rfl | hvw
    · exact readTracks_cons_congr ih seen v
    · cases hvw with
      | @mapping part other hrest htags =>
        rw [readTracks_cons_congr ih, readTracks, readTracks, readTrack_alike hrest htags]
      | foreign => exact readTracks_cons_congr ih seen v

theorem Value.entries_of_not_isObject {v : Value} (hv : ¬ v.IsObject) : v.entries = [] := by
  cases v with
  | map entries => exact absurd ⟨entries, rfl⟩ hv
  | _ => rfl

/-- A report is read from its parts, and the marker of the file by its name in any letter case. -/
theorem Probe.ofReport_alike {report other : List (String × Value)}
    (h : AlikeButTags (Value.get "format" report) (Value.get "format" other))
    {streams others : List Value} (hstreams : readTracks [] streams = readTracks [] others)
    (path : Value) {name name' : String} (hname : Text.foldText name = Text.foldText name') :
    Probe.ofReport report streams path name = Probe.ofReport other others path name' := by
  unfold Probe.ofReport
  rw [hstreams]
  generalize Value.get "format" report = format at h
  generalize Value.get "format" other = format' at h
  cases h with
  | @mapping part part' hrest htags =>
    have hpart : ∀ entries, Probe.readFormat (.map entries) = .ok entries := fun _ => rfl
    simp only [hpart, bind, Except.bind, htags.readTag_eq hname, hrest "format_name" (by decide),
      hrest "filename" (by decide)]
  | foreign hforeign =>
    cases hread : Probe.readFormat format with
    | error fault => rfl
    | ok entries =>
      rw [Probe.readFormat_eq_ok hread, Value.entries_of_not_isObject hforeign]
      rfl

/-- Reports that are alike are read alike, with the same records. -/
theorem Probe.read_alike {report other : List (String × Value)} (h : ReportsAlike report other)
    (path : Value) {name name' : String} (hname : Text.foldText name = Text.foldText name') :
    Probe.read (.map report) path name = Probe.read (.map other) path name' := by
  obtain ⟨streams, others, hstreams, hothers, halike⟩ := h.streams
  have hread := Probe.ofReport_alike h.format (readTracks_alike halike []) path hname
  simp only [Probe.read, hstreams, hothers, hread]

/-- Tags that are the same but for the letter case of their names and their order are read alike
under all spellings of a name: as the value of the one tag with that name in any letter case, or as
null.  Of names that differ in case only, the exact one is read, else the first one.  So reports
whose tags are the same but for case and order are read alike, with their marker, languages and
titles. -/
theorem tags_caseless :
    (∀ (tags others : List (String × Value)) (name name' : String), SameTags tags others →
      Text.foldText name = Text.foldText name' →
        readTag (.map tags) name = readTag (.map others) name' ∧
          (∀ tag ∈ tags, Text.foldText tag.1 = Text.foldText name →
            readTag (.map tags) name = .ok tag.2) ∧
          ((∀ tag ∈ tags, Text.foldText tag.1 ≠ Text.foldText name) →
            readTag (.map tags) name = .ok .null)) ∧
      (∀ (tags : List (String × Value)) (name : String) (v : Value), (tags.map Prod.fst).Nodup →
        (readTag (.map tags) name = .ok v ↔ TagOf name tags v)) ∧
      ∀ (report other : List (String × Value)) (path : Value) (name name' : String),
        ReportsAlike report other → Text.foldText name = Text.foldText name' →
          Probe.read (.map report) path name = Probe.read (.map other) path name' := by
  refine ⟨?_, ?_, ?_⟩
  · intro tags others name name' hsame hname
    simp only [readTag_map, Except.ok.injEq]
    exact ⟨hsame.tagNamed_eq hname, fun tag htag => tagNamed_eq_of_mem hsame.distinct htag,
      tagNamed_eq_null⟩
  · intro tags name v hkeys
    rw [readTag_map, Except.ok.injEq]
    constructor
    · rintro rfl
      exact tagOf_tagNamed name tags
    · exact TagOf.tagNamed_eq hkeys
  · intro report other path name name' halike hname
    exact Probe.read_alike halike path hname

/-- A report on a file with one audio track, by the tags of the file and of the track. -/
def taggedReport (tags trackTags : List (String × Value)) : List (String × Value) :=
  [("format", .map [("tags", .map tags)]),
    ("streams", .list [.map [("index", .int 1), ("codec_type", .text "audio"),
      ("tags", .map trackTags)]])]

/-- A container that writes names in capitals is read like one that does not, although the title of
the file is in front of the marker and that of the track in front of the language. -/
theorem tags_caseless_capitals :
    SameTags [("TITLE", .text "Film"), ("COPYRIGHT", .text "(c)")]
        [("copyright", .text "(c)"), ("title", .text "Film")] ∧
      readTag (.map [("TITLE", .text "Film"), ("COPYRIGHT", .text "(c)")]) "Copyright" =
        .ok (.text "(c)") ∧
      TagOf "COPYRIGHT" [("copyright", .text "old"), ("COPYRIGHT", .text "(c)")] (.text "(c)") ∧
      Probe.read (.map (taggedReport [("TITLE", .text "Film"), ("COPYRIGHT", .text "(c)")]
          [("LANGUAGE", .text "deu"), ("TITLE", .text "Main")])) .null "COPYRIGHT" =
        Probe.read (.map (taggedReport [("copyright", .text "(c)"), ("title", .text "Film")]
          [("TITLE", .text "Main"), ("LANGUAGE", .text "deu")])) .null "copyright" := by
  have hcopyright : Text.foldText "COPYRIGHT" = "copyright" ∧
      Text.foldText "Copyright" = "copyright" ∧ Text.foldText "copyright" = "copyright" := by
    decide +kernel
  have htitle : Text.foldText "TITLE" = "title" ∧ Text.foldText "title" = "title" := by
    decide +kernel
  have hlanguage : Text.foldText "LANGUAGE" = "language" := by decide +kernel
  have hfile : SameTags [("TITLE", .text "Film"), ("COPYRIGHT", .text "(c)")]
      [("copyright", .text "(c)"), ("title", .text "Film")] := by
    constructor
    · simp [foldedTags, htitle, hcopyright]
    · simp only [foldedTags, List.map_cons, List.map_nil, htitle, hcopyright]
      exact .swap _ _ _
  have htrack : SameTags [("LANGUAGE", .text "deu"), ("TITLE", .text "Main")]
      [("TITLE", .text "Main"), ("LANGUAGE", .text "deu")] := by
    refine .of_perm ?_ (.swap _ _ _)
    simp [foldedTags, htitle, hlanguage]
  obtain ⟨hcaseless, hexact, hreports⟩ := tags_caseless
  obtain ⟨-, hvalue, -⟩ := hcaseless _ _ "Copyright" "copyright" hfile
    (hcopyright.2.1.trans hcopyright.2.2.symm)
  refine ⟨hfile, ?_, ?_, ?_⟩
  · exact hvalue ("COPYRIGHT", .text "(c)") (by simp) (hcopyright.1.trans hcopyright.2.1.symm)
  · exact (hexact _ _ _ (by decide)).1 rfl
  · refine hreports _ _ _ _ _ ⟨?_, ?_⟩ (hcopyright.1.trans hcopyright.2.2.symm)
    · exact .mapping (fun key hkey => by simp [Value.get, lookup_cons_ite, hkey]) (.same hfile)
    · refine ⟨_, _, rfl, rfl, .cons (.inr (.mapping ?_ (.same htrack))) .nil⟩
      intro key hkey
      simp [Value.get, lookup_cons_ite, hkey]

end AudioPlan
