import AudioPlan.Proofs.Log.Failure
import AudioPlan.Proofs.Track.Report

/-!
# Reports that cannot be read

Malformed values of a report are left out or warned about, except for some that make the reading
fault.  `StreamFault` and `ReportFault` list them, and `Probe.read_faults_iff` says that there are
no others:

* numbers that are infinite, where a stream has a number or a flag;
* tags, or the part about the file as a whole, that are given and are no mapping;
* a list or a mapping in the place of the type of a stream.

What is read has no foreign values but the codec and the layout of the channels (`Track.Loose`).
-/

namespace AudioPlan

/-! ## Values -/

namespace Value

/-- A floating-point number that is infinite. -/
def IsInfinite (v : Value) : Prop :=
  ∃ negative, v = .float (.infinity negative)

/-- Something that is given and is no mapping. -/
def IsMisplaced (v : Value) : Prop :=
  v.given = true ∧ ¬ v.IsObject

/-- A list or a mapping that is not empty. -/
def IsNested (v : Value) : Prop :=
  v.given = true ∧ ((∃ items, v = .list items) ∨ (∃ entries, v = .map entries) ∨
    ∃ entries, v = .keyed entries)

theorem wholeNumber_faults_iff {v : Value} : Faults v.wholeNumber ↔ v.IsInfinite := by
  cases v with
  | float x => cases x <;> simp [wholeNumber, IsInfinite]
  | _ => simp [wholeNumber, IsInfinite]

end Value

theorem StreamKind.ofReport_faults_iff {v : Value} :
    Faults (StreamKind.ofReport v) ↔ v.IsNested := by
  cases v with
  | text s =>
    rw [StreamKind.ofReport]
    split <;> simp [Value.IsNested]
  | list items =>
    cases hgiven : Value.given (.list items) <;> simp [ofReport, Value.IsNested, hgiven]
  | map entries =>
    cases hgiven : Value.given (.map entries) <;> simp [ofReport, Value.IsNested, hgiven]
  | keyed entries =>
    cases hgiven : Value.given (.keyed entries) <;> simp [ofReport, Value.IsNested, hgiven]
  | _ => simp [StreamKind.ofReport, Value.IsNested]

theorem readTag_faults_iff {tags : Value} {name : String} :
    Faults (readTag tags name) ↔ tags.IsMisplaced := by
  unfold readTag Value.IsMisplaced Value.IsObject
  cases hgiven : tags.given with
  | false => simp
  | true =>
    rw [Bool.not_true, if_neg Bool.false_ne_true]
    cases tags with
    | map entries => simp
    | list items =>
      dsimp only
      split <;> simp
    | text s =>
      dsimp only
      split <;> simp
    | _ => simp

theorem readFlagEntries_faults_iff {entries : List (String × Value)} :
    Faults (readFlagEntries entries) ↔ ∃ entry ∈ entries, entry.2.IsInfinite := by
  induction entries with
  | nil => simp [readFlagEntries]
  | cons entry rest ih =>
    obtain ⟨flag, v⟩ := entry
    simp only [readFlagEntries, List.mem_cons, exists_eq_or_imp]
    rw [← Value.wholeNumber_faults_iff, ← ih]
    refine faults_bind_iff_or fun number _ => faults_bind_iff_left fun others => ?_
    cases number <;> exact not_faults_pure _

theorem readFlags_faults_iff {v : Value} :
    Faults (readFlags v) ↔ ∃ entry ∈ v.entries, entry.2.IsInfinite := by
  cases v with
  | map entries => exact readFlagEntries_faults_iff
  | _ => simp [readFlags, Value.entries]

/-! ## Streams -/

/-- The reasons for which a stream cannot be read.  All but two of them concern audio only. -/
inductive StreamFault (stream : Value) : Prop where
  | index (h : (stream.part "index").IsInfinite)
  | kind (h : (stream.part "codec_type").IsNested)
  | tags (haudio : stream.streamOfType "audio" = true) (h : (stream.part "tags").IsMisplaced)
  | channels (haudio : stream.streamOfType "audio" = true)
      (h : (stream.part "channels").IsInfinite)
  | bitRate (haudio : stream.streamOfType "audio" = true)
      (h : (stream.part "bit_rate").IsInfinite)
  | flag (haudio : stream.streamOfType "audio" = true) {entry : String × Value}
      (hentry : entry ∈ (stream.part "disposition").entries) (h : entry.2.IsInfinite)

theorem readTrack_faults_iff {stream : Value} :
    Faults (readTrack stream.entries) ↔ StreamFault stream := by
  have haudio : ∀ kind, StreamKind.ofReport (stream.part "codec_type") = .ok kind →
      (kind = .audio ↔ stream.streamOfType "audio" = true) := fun kind hkind =>
    StreamKind.ofReport_eq_iff hkind nofun
  have hfaults : Faults (readTrack stream.entries) ↔ (stream.part "index").IsInfinite ∨
      (stream.part "codec_type").IsNested ∨ (stream.streamOfType "audio" = true ∧
        ((stream.part "tags").IsMisplaced ∨ (stream.part "channels").IsInfinite ∨
          (stream.part "bit_rate").IsInfinite ∨
            ∃ entry ∈ (stream.part "disposition").entries, entry.2.IsInfinite)) := by
    rw [← Value.wholeNumber_faults_iff, ← StreamKind.ofReport_faults_iff]
    refine faults_bind_iff_or fun index _ => faults_bind_iff_or fun kind hkind => ?_
    rw [← haudio kind hkind]
    split
    · rename_i hother
      have hother : kind ≠ .audio := by simpa using hother
      simp [hother]
    · rename_i hkindAudio
      have hkindAudio : kind = .audio := by simpa using hkindAudio
      have htag : ∀ name, Faults (readTag (stream.part "tags") name) ↔
          (stream.part "tags").IsMisplaced := fun _ => readTag_faults_iff
      -- The tags are looked into twice, once for the language and once for the title.
      rw [and_iff_right hkindAudio, ← or_self_left]
      nth_rewrite 1 [← htag "language"]
      rw [← htag "title", ← Value.wholeNumber_faults_iff, ← Value.wholeNumber_faults_iff,
        ← readFlags_faults_iff]
      exact faults_bind_iff_or fun _ _ => faults_bind_iff_or fun _ _ => faults_bind_iff_or
        fun _ _ => faults_bind_iff_or fun _ _ => faults_bind_iff_left fun _ => not_faults_pure _
  rw [hfaults]
  constructor
  · rintro (h | h | ⟨haudio, h | h | h | ⟨entry, hentry, h⟩⟩)
    · exact .index h
    · exact .kind h
    · exact .tags haudio h
    · exact .channels haudio h
    · exact .bitRate haudio h
    · exact .flag haudio hentry h
  · intro h
    cases h with
    | index h => exact .inl h
    | kind h => exact .inr (.inl h)
    | tags haudio h => exact .inr (.inr ⟨haudio, .inl h⟩)
    | channels haudio h => exact .inr (.inr ⟨haudio, .inr (.inl h)⟩)
    | bitRate haudio h => exact .inr (.inr ⟨haudio, .inr (.inr (.inl h))⟩)
    | flag haudio hentry h => exact .inr (.inr ⟨haudio, .inr (.inr (.inr ⟨_, hentry, h⟩))⟩)

/-- What is read of streams, one by one. -/
theorem readTracks_faults_iff {seen : List Int} {streams : List Value} :
    Faults (readTracks seen streams) ↔ ∃ s ∈ streams, s.IsObject ∧ StreamFault s := by
  induction streams generalizing seen with
  | nil => simp [readTracks]
  | cons s rest ih =>
    simp only [List.mem_cons, exists_eq_or_imp]
    cases s with
    | map stream =>
      have hobject : (Value.map stream).IsObject := ⟨stream, rfl⟩
      rw [readTracks, and_iff_right hobject, ← readTrack_faults_iff]
      refine faults_bind_iff_or fun t _ => ?_
      -- A stream whose number was seen before is left out, but only after it has been read.
      cases t.index with
      | known n =>
        dsimp only
        split
        · exact (faults_bind_iff_left fun _ => not_faults_pure _).trans ih
        · exact (faults_bind_iff_left fun _ => not_faults_pure _).trans ih
      | foreign v => exact (faults_bind_iff_left fun _ => not_faults_pure _).trans ih
    | _ =>
      simp only [readTracks, Value.IsObject, reduceCtorEq, exists_false, false_and, false_or]
      exact (faults_bind_iff_left fun _ => not_faults_pure _).trans ih

/-! ## Reports -/

theorem Probe.readFormat_faults_iff {v : Value} :
    Faults (Probe.readFormat v) ↔ v.IsMisplaced := by
  unfold Probe.readFormat Value.IsMisplaced Value.IsObject
  cases v with
  | map entries => simp
  | _ =>
    dsimp only
    split <;> simp [*]

/-- The reasons for which a report cannot be read. -/
inductive ReportFault (report : Value) : Prop where
  | format (h : (report.part "format").IsMisplaced)
  | tags (h : ((report.part "format").part "tags").IsMisplaced)
  | stream {s : Value} (hs : s ∈ reportedStreams report) (hobject : s.IsObject)
      (h : StreamFault s)

theorem Probe.ofReport_faults_iff {report : Value} {streams : List Value} {path : Value}
    {tag : String} (hstreams : report.part "streams" = .list streams) :
    Faults (Probe.ofReport report.entries streams path tag) ↔ ReportFault report := by
  have hreported : reportedStreams report = streams := by
    rw [reportedStreams, hstreams, Value.items]
  have hfaults : Faults (Probe.ofReport report.entries streams path tag) ↔
      (report.part "format").IsMisplaced ∨ ((report.part "format").part "tags").IsMisplaced ∨
        ∃ s ∈ streams, s.IsObject ∧ StreamFault s := by
    rw [← Probe.readFormat_faults_iff]
    refine faults_bind_iff_or fun format hformat => ?_
    obtain rfl := Probe.readFormat_eq_ok hformat
    have htag :
        Faults (readTag (Value.get "tags" (Value.get "format" report.entries).entries) tag) ↔
          ((report.part "format").part "tags").IsMisplaced := readTag_faults_iff
    rw [← htag, ← readTracks_faults_iff]
    exact faults_bind_iff_or fun _ _ => faults_bind_iff_left fun _ => not_faults_pure _
  rw [hfaults]
  constructor
  · rintro (h | h | ⟨s, hs, hobject, h⟩)
    · exact .format h
    · exact .tags h
    · exact .stream (hreported ▸ hs) hobject h
  · intro h
    cases h with
    | format h => exact .inl h
    | tags h => exact .inr (.inl h)
    | stream hs hobject h => exact .inr (.inr ⟨_, hreported ▸ hs, hobject, h⟩)

/-- A report is read, or it is known not to be one, except for the reasons that are listed. -/
theorem Probe.read_faults_iff {report path : Value} {tag : String} :
    Faults (Probe.read report path tag).outcome ↔
      report.IsObject ∧ (∃ streams, report.part "streams" = .list streams) ∧
        ReportFault report := by
  have hnone : ¬ Faults ((Logged.write probeLogger .info "Probe data missing or has no stream list"
      >>= fun _ => pure none : Logged (Option Probe)).outcome) := by
    rw [Logged.outcome_write_bind, Logged.outcome_pure]
    exact not_faults_ok _
  cases report with
  | map entries =>
    have hobject : (Value.map entries).IsObject := ⟨entries, rfl⟩
    rw [and_iff_right hobject]
    simp only [Probe.read]
    split
    · rename_i streams hstreams
      have hpart : (Value.map entries).part "streams" = .list streams := hstreams
      rw [and_iff_right ⟨streams, hpart⟩, ← Probe.ofReport_faults_iff hpart, Logged.outcome_bind]
      refine faults_bind_iff_left fun p => ?_
      rw [Logged.outcome_bind, Probe.outcome_logWarnings]
      exact not_faults_ok _
    · rename_i hstreams
      refine iff_of_false hnone ?_
      rintro ⟨⟨streams, hpart⟩, -⟩
      exact hstreams streams hpart
  | _ =>
    refine iff_of_false hnone ?_
    rintro ⟨⟨_, ⟨⟩⟩, -⟩

/-! ## What is read -/

/-- A track as reports have them: what is not of its declared kind is the codec or the layout of the
channels, and then it counts as given. -/
structure Track.Reported (t : Track) : Prop where
  channels : ∃ n, t.channels = .known n
  bitRate : ∃ n, t.bitRate = .known n
  language : ∃ s, t.language = .known s
  title : ∃ s, t.title = .known s
  flags : ∃ flags, t.disposition = .known flags
  codec : ∀ v, t.codec = .foreign v → v.given = true
  layout : ∀ v, t.channelLayout = .foreign v → v.given = true

theorem given_of_readCodec {v w : Value} (h : readCodec v = .foreign w) : w.given = true := by
  unfold readCodec at h
  split at h
  · cases h
  · split at h
    · rename_i hgiven
      cases h
      exact hgiven
    · cases h

theorem given_of_readLayout {v w : Value} (h : readLayout v = .foreign w) : w.given = true := by
  unfold readLayout at h
  split at h
  · cases h
  · split at h
    · rename_i hgiven
      cases h
      exact hgiven
    · cases h

theorem readTrack_reported {stream : List (String × Value)} {t : Track}
    (h : readTrack stream = .ok t) : t.Reported := by
  obtain ⟨index, -, h⟩ := bind_eq_ok.1 h
  obtain ⟨kind, -, h⟩ := bind_eq_ok.1 h
  split at h
  · cases h
    exact ⟨⟨_, rfl⟩, ⟨_, rfl⟩, ⟨_, rfl⟩, ⟨_, rfl⟩, ⟨_, rfl⟩, fun _ => given_of_readCodec, nofun⟩
  · obtain ⟨language, -, h⟩ := bind_eq_ok.1 h
    obtain ⟨title, -, h⟩ := bind_eq_ok.1 h
    obtain ⟨channels, -, h⟩ := bind_eq_ok.1 h
    obtain ⟨bitRate, -, h⟩ := bind_eq_ok.1 h
    obtain ⟨disposition, -, h⟩ := bind_eq_ok.1 h
    cases h
    exact ⟨⟨_, rfl⟩, ⟨_, rfl⟩, ⟨_, rfl⟩, ⟨_, rfl⟩, ⟨_, rfl⟩, fun _ => given_of_readCodec,
      fun _ => given_of_readLayout⟩

theorem readTracks_reported {seen : List Int} {streams : List Value} {read : Streams}
    (h : readTracks seen streams = .ok read) : ∀ t ∈ read.tracks, t.Reported := by
  induction streams generalizing seen read with
  | nil =>
    cases h
    simp
  | cons s rest ih =>
    cases s with
    | map stream =>
      rw [readTracks] at h
      obtain ⟨t, ht, h⟩ := bind_eq_ok.1 h
      have hfirst := readTrack_reported ht
      split at h
      · split at h
        · obtain ⟨others, hothers, h⟩ := bind_eq_ok.1 h
          have hrest := ih hothers
          cases h
          exact hrest
        · obtain ⟨others, hothers, h⟩ := bind_eq_ok.1 h
          cases h
          exact List.forall_mem_cons.2 ⟨hfirst, ih hothers⟩
      · obtain ⟨others, hothers, h⟩ := bind_eq_ok.1 h
        cases h
        exact List.forall_mem_cons.2 ⟨hfirst, ih hothers⟩
    | _ =>
      simp only [readTracks] at h
      obtain ⟨others, hothers, h⟩ := bind_eq_ok.1 h
      have hrest := ih hothers
      cases h
      exact hrest

theorem Probe.read_reported {report path : Value} {tag : String} {p : Probe}
    (h : (Probe.read report path tag).outcome = .ok (some p)) : ∀ t ∈ p.tracks, t.Reported := by
  obtain ⟨-, streams, -, hreport⟩ := Probe.read_eq_some_iff.1 h
  obtain ⟨-, read, hread, htracks⟩ := Probe.ofReport_eq_ok hreport
  rw [htracks]
  exact readTracks_reported hread

end AudioPlan
