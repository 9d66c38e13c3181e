import AudioPlan.Plan.Arguments
import AudioPlan.Proofs.Marker.History
import AudioPlan.Proofs.Outcome.Cases
import AudioPlan.Proofs.Plan.Steps
import AudioPlan.Proofs.Track.Tags

/-!
# Files that were rewritten

A file that is to be changed is rewritten by a command, whose arguments store the marker text in the
metadata of the new file.  The marker text of the new file is then read from whatever tag was asked
for.  The two tags need not be the same one: arguments always name the copyright tag.

* `Arguments.metadataPair?` is the entry that a command stores, `TagStored` what tags are like with
  an entry stored among them, and `Rewritten` what is known of the report on the new file;
* `tagNamed_of_stored` and `tagNamed_of_stored_other` say what is then read under a name;
* `rewritten_alreadyProcessed_iff` says that the new file counts as processed exactly when the tag
  that is read is the one that is written.
-/

namespace AudioPlan

/-! ## Storing an entry -/

/-- The key and the value of an entry written with an equals sign between them. -/
def splitPair? (entry : String) : Option (String × String) :=
  match entry.toList.dropWhile (· != '=') with
  | _ :: value => some (String.ofList (entry.toList.takeWhile (· != '=')), String.ofList value)
  | [] => none

/-- The entry that arguments store in the metadata of the file. -/
def Arguments.metadataPair? (a : Arguments) : Option (String × String) :=
  match a.metadata with
  | ["-metadata", entry] => splitPair? entry
  | _ => none

/-- Tags with an entry stored among them, whose key may come back in another letter case.  It stands
for all tags with that key in any letter case; the other tags stay. -/
def TagStored (key value : String) (tags stored : List (String × Value)) : Prop :=
  ∃ name before after, Text.foldText name = Text.foldText key ∧
    tags.filter (fun tag => !tagIsNamed key tag) = before ++ after ∧
      stored = before ++ (name, .text value) :: after

/-- A report that can be read on a file that was rewritten with an entry for its metadata.  Of its
other parts nothing is said. -/
structure Rewritten (key value : String) (report rewritten : Value) : Prop where
  object : rewritten.IsObject
  format : (rewritten.part "format").IsObject
  tags : ((rewritten.part "format").part "tags").IsObject
  stored : TagStored key value (reportedTags report) (reportedTags rewritten)
  streams : ∃ streams read, rewritten.part "streams" = .list streams ∧
    readTracks [] streams = .ok read

section Tags

variable {key value name : String} {tags stored : List (String × Value)}

/-- Under the key of the stored entry its value is read. -/
theorem tagNamed_of_stored (h : TagStored key value tags stored)
    (hname : Text.foldText name = Text.foldText key) : tagNamed name stored = .text value := by
  obtain ⟨written, before, after, hwritten, hothers, rfl⟩ := h
  have hnone : (before ++ after).filter (tagIsNamed name) = [] := by
    rw [← hothers, List.filter_filter, tagIsNamed_eq_of_fold_eq hname]
    simp
  have hpos : tagIsNamed name (written, .text value) = true := by
    rw [tagIsNamed, hwritten, hname, beq_self_eq_true]
  rw [List.filter_append, List.append_eq_nil_iff] at hnone
  rw [← tagNamed_filter, List.filter_append, hnone.1, List.nil_append,
    List.filter_cons_of_pos hpos, hnone.2, tagNamed_eq, List.find?_cons_of_pos hpos]
  cases hlookup : List.lookup name [(written, Value.text value)] with
  | some v => exact congrArg Prod.snd (List.mem_singleton.1 (mem_of_lookup_eq_some hlookup))
  | none => rfl

/-- Under any other name the same is read as before. -/
theorem tagNamed_of_stored_other (h : TagStored key value tags stored)
    (hname : Text.foldText name ≠ Text.foldText key) :
    tagNamed name stored = tagNamed name tags := by
  obtain ⟨written, before, after, hwritten, hothers, rfl⟩ := h
  have hneg : ¬ tagIsNamed name (written, .text value) = true := by
    rw [tagIsNamed, hwritten, beq_iff_eq]
    exact hname.symm
  have hkept : (tags.filter fun tag => !tagIsNamed key tag).filter (tagIsNamed name) =
      tags.filter (tagIsNamed name) := by
    rw [List.filter_filter]
    refine List.filter_congr fun tag _ => ?_
    rw [Bool.and_eq_left_iff_imp, tagIsNamed, tagIsNamed, beq_iff_eq, Bool.not_eq_true',
      beq_eq_false_iff_ne]
    intro heq
    rwa [heq]
  rw [← tagNamed_filter name tags, ← tagNamed_filter, List.filter_append,
    List.filter_cons_of_neg hneg, ← List.filter_append, ← hothers, hkept]

end Tags

/-! ## Reading a rewritten file -/

theorem Value.textOr_text (s : String) : (Value.text s).textOr "" = s := by
  cases hempty : s.isEmpty with
  | false => simp [Value.textOr, Value.given, hempty, Value.toText]
  | true => simp [Value.textOr, Value.given, String.isEmpty_iff.1 hempty]

/-- A text that a marker was added to has the marker. -/
theorem alreadyProcessed_append_watermark (text : String) (rs : RuleSet) :
    alreadyProcessed (some (text ++ rs.watermark)) rs.watermark = true := by
  rw [alreadyProcessed_watermark_iff, Option.getD_some, extractTokens_append_watermark]
  exact List.mem_append_right _ List.mem_cons_self

theorem RuleSet.isEmpty_append_watermark (text : String) (rs : RuleSet) :
    (text ++ rs.watermark).isEmpty = false := by
  have hmarked := alreadyProcessed_append_watermark text rs
  rw [alreadyProcessed, Bool.and_eq_true, Bool.not_eq_true'] at hmarked
  exact hmarked.1

theorem splitPair?_copyright (value : String) :
    splitPair? ("copyright=" ++ value) = some ("copyright", value) := by
  have hkey : ∀ c ∈ "copyright".toList, (c != '=') = true :=
    List.all_eq_true.1 (by decide)
  have hspan := takeWhile_append_cons hkey (c := '=') rfl value.toList
  have hentry : ("copyright=" ++ value).toList = "copyright".toList ++ '=' :: value.toList := by
    rw [String.toList_append]
    rfl
  rw [splitPair?, hentry, hspan.1, hspan.2]
  simp only [String.ofList_toList]

/-- The command for a file that is to be changed stores the marker text under the copyright tag. -/
theorem Processed.exists_arguments {p : Probe} {rs : RuleSet} {dryRun : Bool} {o : Outcome}
    (h : Processed p rs dryRun o) (hstatus : o.status = .changed) :
    ∃ arguments, o.plan.arguments o.marker = .ok arguments ∧
      arguments.metadataPair? = some ("copyright", p.marker ++ rs.watermark) := by
  obtain ⟨-, hplan, hchanged, hmarker⟩ := h.of_changed hstatus
  obtain ⟨made, passthrough, -, hpassthrough, hassembled⟩ := synthesize_changed hplan hchanged
  have hpasses : o.plan.passthrough = passthrough := by rw [hassembled]
  obtain ⟨other, hother⟩ := passthroughTokens_eq_ok (passthroughFrom_passes hpassthrough)
  rw [← hpasses] at hother
  refine ⟨_, Plan.arguments_of_changed hchanged hother o.marker, ?_⟩
  rw [hmarker, Option.getD_some, RuleSet.isEmpty_append_watermark, if_neg Bool.false_ne_true]
  exact splitPair?_copyright _

/-- The marker of a rewritten file, by the tag that it is read from. -/
theorem Rewritten.exists_read {key value : String} {report rewritten : Value}
    (h : Rewritten key value report rewritten) (path : Value) (tag : String) :
    ∃ again, (Probe.read rewritten path tag).outcome = .ok (some again) ∧
      (Text.foldText tag = Text.foldText key → again.marker = value) ∧
      (Text.foldText tag ≠ Text.foldText key →
        again.marker = (tagNamed tag (reportedTags report)).textOr "") := by
  obtain ⟨streams, read, hstreams, hread⟩ := h.streams
  obtain ⟨again, hagain⟩ := Probe.exists_ofReport_eq_ok path tag h.format h.tags hread
  refine ⟨again, Probe.read_eq_some_iff.2 ⟨h.object, streams, hstreams, hagain⟩, ?_, ?_⟩
  · intro htag
    rw [(Probe.ofReport_eq_ok hagain).1, tagNamed_of_stored h.stored htag, Value.textOr_text]
  · intro htag
    rw [(Probe.ofReport_eq_ok hagain).1, tagNamed_of_stored_other h.stored htag]

/-- When a file is to be changed, the command for it can be written, and stores the marker text
under the copyright tag.  The rewritten file counts as processed with the same rules exactly when
the tag that markers are read from is the copyright tag, in any letter case; with any other tag it
has the marker text that it had before. -/
theorem rewritten_alreadyProcessed_iff {report path : Value} {tag : String} {p : Probe}
    {rs : RuleSet} {dryRun : Bool} {o : Outcome}
    (hread : (Probe.read report path tag).outcome = .ok (some p))
    (ho : (process (some p) rs dryRun).outcome = .ok o) (hstatus : o.status = .changed) :
    ∃ arguments, o.plan.arguments o.marker = .ok arguments ∧
      arguments.metadataPair? = some ("copyright", p.marker ++ rs.watermark) ∧
      ∀ rewritten, Rewritten "copyright" (p.marker ++ rs.watermark) report rewritten →
        ∀ (path' : Value) (dryRun' : Bool), ∃ again,
          (Probe.read rewritten path' tag).outcome = .ok (some again) ∧
          ((∃ o', (process (some again) rs dryRun').outcome = .ok o' ∧
            o'.status = .alreadyProcessed) ↔ Text.foldText tag = "copyright") ∧
          (Text.foldText tag ≠ "copyright" → again.marker = p.marker) := by
  obtain ⟨hrules, hprocessed⟩ := process_eq_ok_iff.1 ho
  obtain ⟨arguments, harguments, hentry⟩ := hprocessed.exists_arguments hstatus
  refine ⟨arguments, harguments, hentry, fun rewritten hrewritten path' dryRun' => ?_⟩
  obtain ⟨again, hagain, hsame, hother⟩ := hrewritten.exists_read path' tag
  obtain ⟨-, streams, -, hreport⟩ := Probe.read_eq_some_iff.1 hread
  have hkey : Text.foldText "copyright" = "copyright" := by decide +kernel
  rw [hkey, ← (Probe.ofReport_eq_ok hreport).1] at hother
  rw [hkey] at hsame
  refine ⟨again, hagain, ?_, hother⟩
  rw [exists_process_alreadyProcessed_iff, and_iff_right hrules]
  constructor
  · -- With another tag the marker text is the old one, which did not have the marker.
    intro hmarked
    by_contra htag
    rw [hother htag, (hprocessed.of_changed hstatus).1] at hmarked
    exact Bool.false_ne_true hmarked
  · intro htag
    rw [hsame htag]
    exact alreadyProcessed_append_watermark p.marker rs

/-- A report on a file with some tags and one audio track. -/
def monoReport (tags : List (String × Value)) : Value :=
  .map [("format", .map [("tags", .map tags)]),
    ("streams", .list [.map [("index", .int 1), ("codec_type", .text "audio"),
      ("codec_name", .text "aac"), ("channels", .int 1)]])]

/-- Markers are looked for under the comment tag: the rewritten file has its marker under the
copyright tag, where it is not looked for, so the same rules would be applied to it again. -/
theorem rewritten_alreadyProcessed_iff_comment :
    ∃ p o rewritten again,
      (Probe.read (monoReport [("title", .text "Film")]) .null "comment").outcome = .ok (some p) ∧
      (process (some p) encodingVisit.rules false).outcome = .ok o ∧ o.status = .changed ∧
      Rewritten "copyright" (p.marker ++ encodingVisit.rules.watermark)
        (monoReport [("title", .text "Film")]) rewritten ∧
      (Probe.read rewritten .null "comment").outcome = .ok (some again) ∧
      again.marker = p.marker ∧
      ¬ ∃ o', (process (some again) encodingVisit.rules false).outcome = .ok o' ∧
        o'.status = .alreadyProcessed := by
  have hseen : ((Probe.read (monoReport [("title", .text "Film")]) .null
      "comment").outcome.toOption.join.bind fun p =>
        (process (some p) encodingVisit.rules false).outcome.toOption.map Outcome.status) =
          some .changed := by decide +kernel
  obtain ⟨p, o, hp, ho, hstatus⟩ := exists_read_process hseen
  obtain ⟨-, -, -, hagain⟩ := rewritten_alreadyProcessed_iff hp ho hstatus
  have htitle : (!tagIsNamed "copyright" ("title", .text "Film")) = true := by decide +kernel
  obtain ⟨-, streams, hstreams, hreport⟩ := Probe.read_eq_some_iff.1 hp
  obtain ⟨-, read, htracks, -⟩ := Probe.ofReport_eq_ok hreport
  have hrewritten : Rewritten "copyright" (p.marker ++ encodingVisit.rules.watermark)
      (monoReport [("title", .text "Film")])
      (monoReport [("title", .text "Film"),
        ("copyright", .text (p.marker ++ encodingVisit.rules.watermark))]) := by
    refine ⟨⟨_, rfl⟩, ⟨_, rfl⟩, ⟨_, rfl⟩, ?_, streams, read, hstreams, htracks⟩
    exact ⟨"copyright", [("title", .text "Film")], [], rfl, List.filter_cons_of_pos htitle, rfl⟩
  obtain ⟨again, hread, hiff, hmarker⟩ := hagain _ hrewritten .null false
  have htag : Text.foldText "comment" ≠ "copyright" := by decide +kernel
  exact ⟨p, o, _, again, hp, ho, hstatus, hrewritten, hread, hmarker htag,
    fun hprocessed => htag (hiff.1 hprocessed)⟩

end AudioPlan
