import AudioPlan.Proofs.Log.Success
import AudioPlan.Track.Probe
import Mathlib.Data.List.Forall2

/-!
# What is read from a report

A report that can be read is a mapping with a list of streams.  Its parts are found by their names
alone (`Value.part`), so what a probe says of the file and of its streams is stated in terms of the
report itself.

* `Probe.read_eq_some_iff` says which reports are read, and `Probe.ofReport_eq_ok` what the
  probe has from them; its marker is the text of a tag of the file (`reportedTags`);
* `readTracks_forall₂` says that streams with different positions are all read, each by itself;
* `readTrack_eq_ok`, `StreamKind.ofReport_eq_iff` and `hasCodec_of_readCodec` say what is read of
  one stream.
-/

namespace AudioPlan

/-! ## Parts of a report -/

namespace Value

/-- The entries of a mapping, none for what is not a mapping. -/
def entries : Value → List (String × Value)
  | .map entries => entries
  | _ => []

/-- The part of a mapping with a name, null where there is none. -/
def part (name : String) (v : Value) : Value :=
  get name v.entries

/-- Whether a value is a mapping with names for its parts. -/
def IsObject (v : Value) : Prop :=
  ∃ entries, v = .map entries

/-- The items of a list, none for what is not a list. -/
def items : Value → List Value
  | .list items => items
  | _ => []

end Value

/-- The tags of the file as a whole. -/
def reportedTags (report : Value) : List (String × Value) :=
  ((report.part "format").part "tags").entries

/-- The streams of a report. -/
def reportedStreams (report : Value) : List Value :=
  (report.part "streams").items

theorem readTag_eq_ok {tags : Value} {name : String} {v : Value} (h : readTag tags name = .ok v) :
    v = tagNamed name tags.entries := by
  unfold readTag at h
  split at h
  · rename_i hgiven
    cases h
    cases tags with
    | map entries =>
      obtain rfl : entries = [] := by simpa [Value.given] using hgiven
      rfl
    | _ => rfl
  · split at h
    · cases h
      rfl
    · split at h <;> cases h
    · split at h <;> cases h
    · cases h

theorem readTag_map (entries : List (String × Value)) (name : String) :
    readTag (.map entries) name = .ok (tagNamed name entries) := by
  cases entries with
  | nil => rfl
  | cons entry entries => rfl

theorem Probe.readFormat_eq_ok {v : Value} {format : List (String × Value)}
    (h : Probe.readFormat v = .ok format) : format = v.entries := by
  unfold Probe.readFormat at h
  split at h
  · cases h
    rfl
  · rename_i hmap
    split at h
    · cases h
    · cases h
      cases v with
      | map entries => exact absurd rfl (hmap entries)
      | _ => rfl

/-! ## Reports -/

theorem Probe.outcome_logWarnings (warnings : List String) :
    (Probe.logWarnings warnings).outcome = .ok () := by
  induction warnings with
  | nil => rfl
  | cons warning rest ih =>
    rw [Probe.logWarnings, Logged.outcome_write_bind]
    exact ih

/-- The reports that are read are the mappings with a list of streams. -/
theorem Probe.read_eq_some_iff {report path : Value} {tag : String} {p : Probe} :
    (Probe.read report path tag).outcome = .ok (some p) ↔
      report.IsObject ∧ ∃ streams, report.part "streams" = .list streams ∧
        Probe.ofReport report.entries streams path tag = .ok p := by
  have hnone : ((Logged.write probeLogger .info "Probe data missing or has no stream list" >>=
      fun _ => pure none : Logged (Option Probe)).outcome) ≠ .ok (some p) := by
    rw [Logged.outcome_write_bind, Logged.outcome_pure]
    exact fun h => nomatch h
  cases report with
  | map entries =>
    simp only [Probe.read, Value.part, Value.entries]
    split
    · rename_i streams hstreams
      simp only [hstreams, Logged.outcome_bind_eq_ok, Logged.outcome_liftM, Logged.outcome_pure,
        Probe.outcome_logWarnings, Except.ok.injEq, Option.some.injEq, Value.list.injEq,
        exists_eq_left', true_and, exists_const, Value.IsObject]
      constructor
      · rintro ⟨q, hq, rfl⟩
        exact ⟨⟨entries, rfl⟩, hq⟩
      · rintro ⟨-, hp⟩
        exact ⟨p, hp, rfl⟩
    · rename_i hstreams
      constructor
      · exact fun h => absurd h hnone
      · rintro ⟨-, streams, hlist, -⟩
        exact absurd hlist (hstreams streams)
  | _ =>
    constructor
    · exact fun h => absurd h hnone
    · rintro ⟨⟨_, ⟨⟩⟩, -⟩

/-- What a probe has from a report that is read. -/
theorem Probe.ofReport_eq_ok {report : Value} {streams : List Value} {path : Value} {tag : String}
    {p : Probe} (h : Probe.ofReport report.entries streams path tag = .ok p) :
    p.marker = (tagNamed tag (reportedTags report)).textOr "" ∧
      ∃ read, readTracks [] streams = .ok read ∧ p.tracks = read.tracks := by
  obtain ⟨format, hformat, h⟩ := bind_eq_ok.1 h
  obtain ⟨marker, hmarker, h⟩ := bind_eq_ok.1 h
  obtain ⟨read, hread, h⟩ := bind_eq_ok.1 h
  cases h
  obtain rfl := Probe.readFormat_eq_ok hformat
  exact ⟨congrArg (Value.textOr "") (readTag_eq_ok hmarker), read, hread, rfl⟩

/-- A report whose parts are what they should be is read if its streams are. -/
theorem Probe.exists_ofReport_eq_ok {report : Value} {streams : List Value} (path : Value)
    (tag : String) (hformat : (report.part "format").IsObject)
    (htags : ((report.part "format").part "tags").IsObject) {read : Streams}
    (hread : readTracks [] streams = .ok read) :
    ∃ p, Probe.ofReport report.entries streams path tag = .ok p := by
  obtain ⟨format, hformat⟩ := hformat
  obtain ⟨tags, htags⟩ := htags
  rw [hformat] at htags
  have hreadFormat : Probe.readFormat (Value.get "format" report.entries) = .ok format := by
    rw [← Value.part, hformat, Probe.readFormat]
  have hreadTag : readTag (Value.get "tags" format) tag = .ok (tagNamed tag tags) := by
    rw [show Value.get "tags" format = .map tags from htags, readTag_map]
  exact ⟨_, bind_eq_ok.2 ⟨_, hreadFormat, bind_eq_ok.2 ⟨_, hreadTag,
    bind_eq_ok.2 ⟨_, hread, rfl⟩⟩⟩⟩

/-! ## Streams -/

/-- The position of a stream in the file, zero where it cannot be read. -/
def Value.streamIndex (stream : Value) : Int :=
  match (stream.part "index").wholeNumber with
  | .ok (some n) => n
  | _ => 0

/-- Whether a stream is of a type. -/
def Value.streamOfType (type : String) (stream : Value) : Bool :=
  match stream.part "codec_type" with
  | .text s => s == type
  | _ => false

/-- Whether a stream has the name of a codec. -/
def Value.codecNamed (stream : Value) : Bool :=
  match stream.part "codec_name" with
  | .text s => !s.isEmpty && s != "none"
  | v => v.given

/-- What is read of a stream of any kind. -/
theorem readTrack_eq_ok {stream : Value} {t : Track} (h : readTrack stream.entries = .ok t) :
    t.index = .known stream.streamIndex ∧
      StreamKind.ofReport (stream.part "codec_type") = .ok t.kind ∧
        t.codec = readCodec (stream.part "codec_name") := by
  obtain ⟨index, hindex, h⟩ := bind_eq_ok.1 h
  obtain ⟨kind, hkind, h⟩ := bind_eq_ok.1 h
  have hposition : stream.streamIndex = index.getD 0 := by
    rw [Value.streamIndex, Value.part, hindex]
    cases index <;> rfl
  rw [hposition]
  split at h
  · cases h
    exact ⟨rfl, hkind, rfl⟩
  · obtain ⟨language, -, h⟩ := bind_eq_ok.1 h
    obtain ⟨title, -, h⟩ := bind_eq_ok.1 h
    obtain ⟨channels, -, h⟩ := bind_eq_ok.1 h
    obtain ⟨bitRate, -, h⟩ := bind_eq_ok.1 h
    obtain ⟨disposition, -, h⟩ := bind_eq_ok.1 h
    cases h
    exact ⟨rfl, hkind, rfl⟩

/-- Streams with different positions are all read, each by itself and in order. -/
theorem readTracks_forall₂ {seen : List Int} {streams : List Value} {read : Streams}
    (h : readTracks seen streams = .ok read) (hobjects : ∀ s ∈ streams, s.IsObject)
    (hnodup : (streams.map Value.streamIndex).Nodup)
    (hseen : ∀ s ∈ streams, s.streamIndex ∉ seen) :
    List.Forall₂ (fun s t => readTrack s.entries = .ok t) streams read.tracks := by
  induction streams generalizing seen read with
  | nil =>
    cases h
    exact .nil
  | cons s streams ih =>
    obtain ⟨entries, rfl⟩ := hobjects s List.mem_cons_self
    obtain ⟨hfirst, hobjects⟩ := List.forall_mem_cons.1 hobjects
    obtain ⟨hunseen, hseen⟩ := List.forall_mem_cons.1 hseen
    rw [List.map_cons, List.nodup_cons] at hnodup
    rw [readTracks] at h
    obtain ⟨t, ht, h⟩ := bind_eq_ok.1 h
    have hread : readTrack (Value.map entries).entries = .ok t := ht
    simp only [(readTrack_eq_ok hread).1, if_neg hunseen] at h
    obtain ⟨others, hothers, h⟩ := bind_eq_ok.1 h
    cases h
    refine .cons ht (ih hothers hobjects hnodup.2 fun s hs => ?_)
    rw [List.mem_cons, not_or]
    exact ⟨fun heq => hnodup.1 (heq ▸ List.mem_map_of_mem hs), hseen s hs⟩

theorem StreamKind.ofName_eq_iff {kind : StreamKind} (hkind : ∀ name, kind ≠ .other name)
    {s : String} : StreamKind.ofName s = kind ↔ s = kind.name := by
  constructor
  · rintro rfl
    unfold StreamKind.ofName at hkind ⊢
    split <;> simp_all [StreamKind.name]
  · rintro rfl
    cases kind with
    | other name => exact absurd rfl (hkind name)
    | _ => rfl

/-- A stream is of a kind known by name exactly when its type is that name. -/
theorem StreamKind.ofReport_eq_iff {stream : Value} {kind known : StreamKind}
    (h : StreamKind.ofReport (stream.part "codec_type") = .ok kind)
    (hknown : ∀ name, known ≠ .other name) :
    kind = known ↔ stream.streamOfType known.name = true := by
  have hother : ∀ {v : Value}, (if v.given then .error Fault.wrongKind else .ok .unknown) =
      (.ok kind : Except Fault StreamKind) → kind ≠ known := by
    intro v hv
    split at hv
    · cases hv
    · cases hv
      exact (hknown _).symm
  unfold Value.streamOfType
  generalize stream.part "codec_type" = v at h
  cases v with
  | text s =>
    simp only [StreamKind.ofReport] at h
    simp only [beq_iff_eq, ← StreamKind.ofName_eq_iff hknown]
    split at h
    · rename_i name hname
      cases h
      rw [hname]
      exact iff_of_false (hknown _).symm (hknown _).symm
    · cases h
      exact Iff.rfl
  | list items => exact iff_of_false (hother h) Bool.false_ne_true
  | map entries => exact iff_of_false (hother h) Bool.false_ne_true
  | keyed entries => exact iff_of_false (hother h) Bool.false_ne_true
  | _ =>
    cases h
    exact iff_of_false (hknown _).symm Bool.false_ne_true

/-- The encoding of a stream counts as identified exactly when the codec has a name. -/
theorem hasCodec_of_readCodec {stream : Value} {t : Track}
    (h : t.codec = readCodec (stream.part "codec_name")) : t.hasCodec = stream.codecNamed := by
  have hother : ∀ v : Value,
      Track.hasCodec { codec := if v.given then .foreign v else .known none } = v.given := by
    intro v
    cases hgiven : v.given <;> simp [Track.hasCodec, hgiven]
  show Track.hasCodec { codec := t.codec } = _
  unfold Value.codecNamed
  rw [h]
  cases stream.part "codec_name" with
  | text s =>
    cases hempty : s.isEmpty <;> cases hnone : s == "none" <;>
      simp [Track.hasCodec, readCodec, hempty, hnone, bne]
  | null => rfl
  | other kind shown => rfl
  | _ => exact hother _

end AudioPlan
