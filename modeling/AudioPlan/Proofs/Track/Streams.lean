import AudioPlan.Proofs.Track.Report

/-!
# Which streams of a report are kept

Of the entries of a list of streams, those are kept that are objects and whose position no earlier
object has (`FirstAt`).  Every other entry is left out with one warning (`LeftOut`).  So no stream
is lost without a word and none is there twice (`readTracks_sifts`).

* `Sifted` follows the reading entry by entry, and says of each entry what the entries before it
  have to do with it; `readTracks_sifted` says that the reading does nothing else;
* `Sifted.forall₂` finds the entries behind the tracks and behind the warnings, and
  `Sifted.index_nodup` says that the tracks have different positions;
* `Probe.classes_perm` and `Probe.classes_disjoint` divide what is kept into audio, video and other
  tracks.
-/

namespace AudioPlan

namespace Value

instance (v : Value) : Decidable v.IsObject :=
  match v with
  | .map entries => isTrue ⟨entries, rfl⟩
  | .null | .bool _ | .int _ | .float _ | .text _ | .list _ | .keyed _ | .bytes _ | .set _
  | .other _ _ => isFalse nofun

/-- A stream has the position in the file that one of some entries has. -/
def IndexAmong (entries : List Value) (stream : Value) : Prop :=
  ∃ s ∈ entries, s.IsObject ∧ s.streamIndex = stream.streamIndex

instance (entries : List Value) (stream : Value) : Decidable (stream.IndexAmong entries) :=
  inferInstanceAs (Decidable (∃ s ∈ entries, _))

end Value

/-! ## Entries by their places -/

/-- The entry at a place is an object, and the first one with its position in the file. -/
def FirstAt (items : List Value) (i : Nat) : Prop :=
  ∃ s ∈ items[i]?, s.IsObject ∧ ¬ s.IndexAmong (items.take i)

instance (items : List Value) (i : Nat) : Decidable (FirstAt items i) :=
  inferInstanceAs (Decidable (∃ s ∈ items[i]?, _))

/-- The track at a place is what is read of the entry there. -/
def ReadAt (items : List Value) (i : Nat) (t : Track) : Prop :=
  ∃ s ∈ items[i]?, readTrack s.entries = .ok t

/-- The warning about an entry that is left out: it is no object, or its position in the file is
that of a stream which was kept before. -/
inductive LeftOut (items : List Value) (i : Nat) : String → Prop where
  | malformed {v : Value} (hv : items[i]? = some v) (hobject : ¬ v.IsObject) :
      LeftOut items i ("Ignoring malformed stream entry: " ++ v.shown)
  | repeated {s first : Value} {j : Nat} (hs : items[i]? = some s) (hobject : s.IsObject)
      (hj : j < i) (hkept : FirstAt items j) (hfirst : items[j]? = some first)
      (hindex : first.streamIndex = s.streamIndex) :
      LeftOut items i s!"Duplicate stream index {s.streamIndex}, skipping"

/-- The object with the position of an entry that comes first. -/
theorem exists_firstAt {items : List Value} {i : Nat} {s : Value} (hs : items[i]? = some s)
    (hobject : s.IsObject) : ∃ j ≤ i, FirstAt items j ∧
      ∃ first, items[j]? = some first ∧ first.streamIndex = s.streamIndex := by
  induction i using Nat.strongRecOn generalizing s with
  | ind i ih =>
    by_cases hseen : s.IndexAmong (items.take i)
    · obtain ⟨r, hr, hrobject, hindex⟩ := hseen
      obtain ⟨k, hk⟩ := List.mem_iff_getElem?.1 hr
      rw [List.getElem?_take] at hk
      split at hk
      · rename_i hlt
        obtain ⟨j, hj, hfirst, first, hget, heq⟩ := ih k hlt hk hrobject
        exact ⟨j, by omega, hfirst, first, hget, heq.trans hindex⟩
      · cases hk
    · exact ⟨i, Nat.le_refl i, ⟨s, hs, hobject, hseen⟩, s, hs, rfl⟩

/-- What an entry behind others has to be to come first. -/
theorem firstAt_length {before items : List Value} {v : Value} :
    FirstAt (before ++ v :: items) before.length ↔ v.IsObject ∧ ¬ v.IndexAmong before := by
  simp [FirstAt]

/-! ## The reading, entry by entry -/

/-- What becomes of entries that stand behind others: each is left out with a warning or read. -/
inductive Sifted : (before : List Value) → List Value → Streams → Prop where
  | nil (before : List Value) : Sifted before [] {}
  | malformed {before items : List Value} {v : Value} {read : Streams} (hobject : ¬ v.IsObject)
      (rest : Sifted (before ++ [v]) items read) :
      Sifted before (v :: items) { read with
        warnings := ("Ignoring malformed stream entry: " ++ v.shown) :: read.warnings }
  | repeated {before items : List Value} {s : Value} {t : Track} {read : Streams}
      (hobject : s.IsObject) (hseen : s.IndexAmong before) (ht : readTrack s.entries = .ok t)
      (rest : Sifted (before ++ [s]) items read) :
      Sifted before (s :: items) { read with
        warnings := s!"Duplicate stream index {s.streamIndex}, skipping" :: read.warnings }
  | kept {before items : List Value} {s : Value} {t : Track} {read : Streams}
      (hobject : s.IsObject) (hfirst : ¬ s.IndexAmong before) (ht : readTrack s.entries = .ok t)
      (rest : Sifted (before ++ [s]) items read) :
      Sifted before (s :: items) { read with tracks := t :: read.tracks }

/-- The positions that were seen are those of the objects before. -/
def SeenIn (before : List Value) (seen : List Int) : Prop :=
  ∀ n, n ∈ seen ↔ ∃ s ∈ before, s.IsObject ∧ s.streamIndex = n

theorem SeenIn.push {before : List Value} {seen : List Int} (h : SeenIn before seen) {s : Value}
    (hobject : s.IsObject) : SeenIn (before ++ [s]) (s.streamIndex :: seen) := by
  intro n
  simp only [List.mem_cons, h n, List.mem_append, List.not_mem_nil, or_false, or_and_right,
    exists_or, exists_eq_left, hobject, true_and]
  rw [or_comm, eq_comm]

/-- Entries that are left out bring no new position. -/
theorem SeenIn.skip {before : List Value} {seen : List Int} (h : SeenIn before seen) {v : Value}
    (hv : v.IsObject → v.IndexAmong before) : SeenIn (before ++ [v]) seen := by
  intro n
  rw [h n]
  constructor
  · rintro ⟨s, hs, hindex⟩
    exact ⟨s, List.mem_append_left _ hs, hindex⟩
  · rintro ⟨s, hs, hobject, hindex⟩
    rcases List.mem_append.1 hs with hs | hs
    · exact ⟨s, hs, hobject, hindex⟩
    · obtain rfl := List.mem_singleton.1 hs
      obtain ⟨r, hr, hrobject, heq⟩ := hv hobject
      exact ⟨r, hr, hrobject, heq.trans hindex⟩

theorem readTracks_sifted {before items : List Value} {seen : List Int} {read : Streams}
    (hseen : SeenIn before seen) (h : readTracks seen items = .ok read) :
    Sifted before items read := by
  induction items generalizing before seen read with
  | nil =>
    cases h
    exact .nil before
  | cons v items ih =>
    by_cases hobject : v.IsObject
    · obtain ⟨stream, rfl⟩ := hobject
      have hobject : (Value.map stream).IsObject := ⟨stream, rfl⟩
      rw [readTracks] at h
      obtain ⟨t, ht, h⟩ := bind_eq_ok.1 h
      have hread : readTrack (Value.map stream).entries = .ok t := ht
      simp only [(readTrack_eq_ok hread).1] at h
      split at h
      · rename_i hmem
        have hamong := (hseen _).1 hmem
        obtain ⟨others, hothers, h⟩ := bind_eq_ok.1 h
        cases h
        exact .repeated hobject hamong hread (ih (hseen.skip fun _ => hamong) hothers)
      · rename_i hmem
        obtain ⟨others, hothers, h⟩ := bind_eq_ok.1 h
        cases h
        exact .kept hobject (mt (hseen _).2 hmem) hread (ih (hseen.push hobject) hothers)
    · have hrest : ∃ others, readTracks seen items = .ok others ∧ read = { others with
          warnings := ("Ignoring malformed stream entry: " ++ v.shown) :: others.warnings } := by
        cases v with
        | map stream => exact absurd ⟨stream, rfl⟩ hobject
        | _ =>
          obtain ⟨others, hothers, h⟩ := bind_eq_ok.1 h
          cases h
          exact ⟨others, hothers, rfl⟩
      obtain ⟨others, hothers, rfl⟩ := hrest
      exact .malformed hobject (ih (hseen.skip fun hv => absurd hv hobject) hothers)

/-- The places of the entries behind others. -/
def places (before items : List Value) : List Nat :=
  List.range' before.length items.length

theorem places_cons (before items : List Value) (v : Value) :
    places before (v :: items) = before.length :: places (before ++ [v]) items := by
  rw [places, places, List.length_cons, List.range'_succ, List.length_append, List.length_singleton]

/-- An entry whose position was seen is left out on account of the one that came first. -/
theorem Value.IndexAmong.leftOut {before items : List Value} {s : Value} (hobject : s.IsObject)
    (h : s.IndexAmong before) : LeftOut (before ++ s :: items) before.length
      s!"Duplicate stream index {s.streamIndex}, skipping" := by
  obtain ⟨r, hr, hrobject, hindex⟩ := h
  obtain ⟨k, hk⟩ := List.mem_iff_getElem?.1 hr
  obtain ⟨hlt, -⟩ := List.getElem?_eq_some_iff.1 hk
  have hget : (before ++ s :: items)[k]? = some r := by
    rw [List.getElem?_append_left hlt]
    exact hk
  obtain ⟨j, hj, hkept, first, hfirst, heq⟩ := exists_firstAt hget hrobject
  exact .repeated (by simp) hobject (by omega) hkept hfirst (heq.trans hindex)

/-- What no entry has, none of fewer entries has. -/
theorem Value.exists_not_indexAmong {before more : List Value} {index : Field Int}
    (h : ∃ s : Value, index = .known s.streamIndex ∧ ¬ s.IndexAmong (before ++ more)) :
    ∃ s : Value, index = .known s.streamIndex ∧ ¬ s.IndexAmong before := by
  obtain ⟨s, hs, hnone⟩ := h
  refine ⟨s, hs, fun ⟨r, hr, hindex⟩ => hnone ⟨r, List.mem_append_left _ hr, hindex⟩⟩

section Sifted

variable {before items : List Value} {read : Streams}

/-- Every entry gives a track or a warning. -/
theorem Sifted.length_eq (h : Sifted before items read) :
    read.tracks.length + read.warnings.length = items.length := by
  induction h with
  | nil => rfl
  | malformed _ _ ih =>
    rw [List.length_cons, List.length_cons, ← ih]
    rfl
  | repeated _ _ _ _ ih =>
    rw [List.length_cons, List.length_cons, ← ih]
    rfl
  | kept _ _ _ _ ih =>
    rw [List.length_cons, List.length_cons, ← ih]
    exact Nat.add_right_comm _ _ _

/-- Every object is read by itself, whether it is kept or not. -/
theorem Sifted.readable (h : Sifted before items read) : ∀ s ∈ items, s.IsObject →
    ∃ t, readTrack s.entries = .ok t ∧ t.index = .known s.streamIndex := by
  induction h with
  | nil => simp
  | malformed hobject _ ih =>
    exact List.forall_mem_cons.2 ⟨fun hv => absurd hv hobject, ih⟩
  | repeated _ _ ht _ ih =>
    exact List.forall_mem_cons.2 ⟨fun _ => ⟨_, ht, (readTrack_eq_ok ht).1⟩, ih⟩
  | kept _ _ ht _ ih =>
    exact List.forall_mem_cons.2 ⟨fun _ => ⟨_, ht, (readTrack_eq_ok ht).1⟩, ih⟩

/-- The tracks come from the first objects for their positions, and the warnings from all other
entries, both in order. -/
theorem Sifted.forall₂ (h : Sifted before items read) :
    List.Forall₂ (ReadAt (before ++ items))
      ((places before items).filter (FirstAt (before ++ items) ·)) read.tracks ∧
    List.Forall₂ (LeftOut (before ++ items))
      ((places before items).filter (¬ FirstAt (before ++ items) ·)) read.warnings := by
  induction h with
  | nil => exact ⟨.nil, .nil⟩
  | @malformed before items v read hobject rest ih =>
    have hfirst : ¬ FirstAt (before ++ v :: items) before.length := fun h =>
      hobject (firstAt_length.1 h).1
    rw [List.append_assoc, List.singleton_append] at ih
    rw [places_cons, List.filter_cons_of_neg (by simpa using hfirst),
      List.filter_cons_of_pos (by simpa using hfirst)]
    exact ⟨ih.1, .cons (.malformed (by simp) hobject) ih.2⟩
  | @repeated before items s t read hobject hseen ht rest ih =>
    have hfirst : ¬ FirstAt (before ++ s :: items) before.length := fun h =>
      (firstAt_length.1 h).2 hseen
    rw [List.append_assoc, List.singleton_append] at ih
    rw [places_cons, List.filter_cons_of_neg (by simpa using hfirst),
      List.filter_cons_of_pos (by simpa using hfirst)]
    exact ⟨ih.1, .cons (hseen.leftOut hobject) ih.2⟩
  | @kept before items s t read hobject hunseen ht rest ih =>
    have hfirst : FirstAt (before ++ s :: items) before.length :=
      firstAt_length.2 ⟨hobject, hunseen⟩
    rw [List.append_assoc, List.singleton_append] at ih
    rw [places_cons, List.filter_cons_of_pos (by simpa using hfirst),
      List.filter_cons_of_neg (by simpa using hfirst)]
    exact ⟨.cons ⟨s, by simp, ht⟩ ih.1, ih.2⟩

/-- No track has the position of another one, or of an object that stands before the entries. -/
theorem Sifted.index_nodup (h : Sifted before items read) :
    (read.tracks.map Track.index).Nodup ∧
      ∀ t ∈ read.tracks, ∃ s : Value, t.index = .known s.streamIndex ∧
        ¬ s.IndexAmong before := by
  induction h with
  | nil => exact ⟨.nil, by simp⟩
  | malformed _ _ ih => exact ⟨ih.1, fun t ht => Value.exists_not_indexAmong (ih.2 t ht)⟩
  | repeated _ _ _ _ ih => exact ⟨ih.1, fun t ht => Value.exists_not_indexAmong (ih.2 t ht)⟩
  | @kept before items s t read hobject hunseen ht rest ih =>
    obtain ⟨hnodup, hothers⟩ := ih
    have hindex := (readTrack_eq_ok ht).1
    have hnew : t.index ∉ read.tracks.map Track.index := by
      intro hmem
      obtain ⟨t', ht', heq⟩ := List.mem_map.1 hmem
      obtain ⟨r, hr, hnone⟩ := hothers t' ht'
      rw [hr, hindex, Field.known.injEq] at heq
      exact hnone ⟨s, List.mem_append_right _ (List.mem_singleton_self s), hobject, heq.symm⟩
    exact ⟨List.nodup_cons.2 ⟨hnew, hnodup⟩, List.forall_mem_cons.2
      ⟨⟨s, hindex, hunseen⟩, fun t ht => Value.exists_not_indexAmong (hothers t ht)⟩⟩

end Sifted

/-! ## The classes of tracks -/

namespace Probe

/-- The video tracks in the order of the file. -/
def videos (p : Probe) : List Track :=
  p.tracks.filter (·.kind == .video)

theorem videos_eq (p : Probe) :
    p.videos = (p.tracks.filter (!·.kind == .audio)).filter (·.kind == .video) := by
  rw [videos, List.filter_filter]
  refine List.filter_congr fun t _ => ?_
  cases hkind : t.kind == .video with
  | false => rfl
  | true =>
    rw [beq_iff_eq.1 hkind]
    rfl

theorem others_eq (p : Probe) :
    p.others = (p.tracks.filter (!·.kind == .audio)).filter (!·.kind == .video) := by
  rw [others, List.filter_filter]
  exact List.filter_congr fun t _ => Bool.and_comm _ _

/-- Audio, video and other tracks together are all tracks. -/
theorem classes_perm (p : Probe) : (p.audio ++ (p.videos ++ p.others)).Perm p.tracks := by
  rw [videos_eq, others_eq]
  exact ((List.filter_append_perm _ _).append_left p.audio).trans (List.filter_append_perm _ _)

/-- No track is in two of the classes. -/
theorem classes_disjoint (p : Probe) :
    [p.audio, p.videos, p.others].Pairwise List.Disjoint := by
  have haudio : ∀ t ∈ p.audio, t.kind = .audio := fun t ht =>
    beq_iff_eq.1 (List.mem_filter.1 ht).2
  have hvideo : ∀ t ∈ p.videos, t.kind = .video := fun t ht =>
    beq_iff_eq.1 (List.mem_filter.1 ht).2
  have hother : ∀ t ∈ p.others, t.kind ≠ .audio ∧ t.kind ≠ .video := fun t ht => by
    simpa using (List.mem_filter.1 ht).2
  simp only [List.pairwise_cons, List.mem_cons, List.not_mem_nil, or_false, forall_eq_or_imp,
    forall_eq, false_implies, implies_true, and_true, List.Pairwise.nil]
  refine ⟨⟨fun t ht ht' => ?_, fun t ht ht' => ?_⟩, fun t ht ht' => ?_⟩
  · exact nomatch (haudio t ht).symm.trans (hvideo t ht')
  · exact (hother t ht').1 (haudio t ht)
  · exact (hother t ht').2 (hvideo t ht)

end Probe

/-- Reading streams loses none and repeats none.  Each entry gives a track or a warning, and no two
tracks have the same position.  Every object is read as a track with its position in the file; the
tracks are what is read of the objects that are the first ones with their position, in order.  The
warnings are about all other entries, in order, each of which is no object or has the position of a
stream that was kept before.  A probe of a report with these entries has just these tracks, and each
is an audio track, a video track or another one. -/
theorem readTracks_sifts {items : List Value} {read : Streams}
    (h : readTracks [] items = .ok read) :
    read.tracks.length + read.warnings.length = items.length ∧
    (read.tracks.map Track.index).Nodup ∧
    (∀ s ∈ items, s.IsObject →
      ∃ t, readTrack s.entries = .ok t ∧ t.index = .known s.streamIndex) ∧
    List.Forall₂ (ReadAt items) ((List.range items.length).filter (FirstAt items ·)) read.tracks ∧
    List.Forall₂ (LeftOut items) ((List.range items.length).filter (¬ FirstAt items ·))
      read.warnings ∧
    ∀ (report path : Value) (tag : String) (p : Probe), report.part "streams" = .list items →
      (Probe.read report path tag).outcome = .ok (some p) →
        p.tracks = read.tracks ∧ (p.audio ++ (p.videos ++ p.others)).Perm read.tracks ∧
          [p.audio, p.videos, p.others].Pairwise List.Disjoint := by
  have hnone : SeenIn [] [] := by simp [SeenIn]
  have hsifted := readTracks_sifted hnone h
  obtain ⟨htracks, hwarnings⟩ := hsifted.forall₂
  rw [places, List.length_nil, ← List.range_eq_range', List.nil_append] at htracks hwarnings
  refine ⟨hsifted.length_eq, hsifted.index_nodup.1, hsifted.readable, htracks, hwarnings, ?_⟩
  intro report path tag p hstreams hread
  obtain ⟨-, streams, hlist, hreport⟩ := Probe.read_eq_some_iff.1 hread
  rw [hstreams, Value.list.injEq] at hlist
  subst hlist
  obtain ⟨-, other, hother, hp⟩ := Probe.ofReport_eq_ok hreport
  rw [h, Except.ok.injEq] at hother
  subst hother
  exact ⟨hp, hp ▸ p.classes_perm, p.classes_disjoint⟩

/-- Streams of which some are no objects, one has the position of another one, and two have none. -/
def untidyStreams : List Value :=
  [.map [("index", .int 1), ("codec_type", .text "audio"), ("codec_name", .text "aac")], .int 7,
    .map [("codec_type", .text "video")],
    .map [("index", .text "1"), ("codec_type", .text "audio")], .null,
    .map [("codec_type", .text "subtitle")], .map [("index", .int 4)]]

/-- Without a position a stream counts as the one at zero, which only one stream can be. -/
theorem readTracks_sifts_untidy :
    ∃ (read : Streams) (p : Probe), readTracks [] untidyStreams = .ok read ∧
      (Probe.read (.map [("streams", .list untidyStreams)]) .null "COPYRIGHT").outcome =
        .ok (some p) ∧
      read.tracks.length + read.warnings.length = 7 ∧ (read.tracks.map Track.index).Nodup ∧
      (∀ s ∈ untidyStreams, s.IsObject →
        ∃ t, readTrack s.entries = .ok t ∧ t.index = .known s.streamIndex) ∧
      List.Forall₂ (ReadAt untidyStreams) [0, 2, 6] read.tracks ∧
      List.Forall₂ (LeftOut untidyStreams) [1, 3, 4, 5] read.warnings ∧
      p.tracks = read.tracks ∧ (p.audio ++ (p.videos ++ p.others)).Perm read.tracks ∧
      [p.audio, p.videos, p.others].Pairwise List.Disjoint := by
  have hseen : (readTracks [] untidyStreams).toOption.map (·.tracks.length) = some 3 := by
    decide +kernel
  have hprobed : (Probe.read (.map [("streams", .list untidyStreams)]) .null
      "COPYRIGHT").outcome.toOption.map Option.isSome = some true := by
    decide +kernel
  obtain ⟨read, hread, -⟩ := exists_eq_ok_of_map hseen
  obtain ⟨found, hfound, hsome⟩ := exists_eq_ok_of_map hprobed
  obtain ⟨p, rfl⟩ := Option.isSome_iff_exists.1 hsome
  obtain ⟨hlength, hnodup, hobjects, htracks, hwarnings, hprobe⟩ := readTracks_sifts hread
  have hkept : (List.range untidyStreams.length).filter (FirstAt untidyStreams ·) = [0, 2, 6] := by
    decide +kernel
  have hleft : (List.range untidyStreams.length).filter (¬ FirstAt untidyStreams ·) =
      [1, 3, 4, 5] := by
    decide +kernel
  exact ⟨read, p, hread, hfound, hlength, hnodup, hobjects, hkept ▸ htracks, hleft ▸ hwarnings,
    hprobe _ _ _ p rfl hfound⟩

end AudioPlan
