import AudioPlan.Proofs.Arguments.Streams
import AudioPlan.Proofs.Outcome.Cases
import AudioPlan.Proofs.Track.Report

/-!
# What a command maps

The value of a `-map` option names a stream of the old file by its kind and its position among the
streams of that kind.  Positions are counted where the audio tracks are visited and where the other
streams are passed through, each time over the tracks that were read.  This file shows that they are
positions in the report.

* `Arguments.maps` is what arguments map, and `streamSelector` names a stream;
* `mapValues_instructions` and `mapValues_passthrough` say what the groups of arguments map, and
  `Plan.exists_maps` that all of them together map the streams that the plan has chosen;
* `count_selector` counts how often a stream is mapped;
* `maps_streams` puts these together with the report that was read.
-/

namespace AudioPlan

/-! ## Values of `-map` -/

/-- The values of the `-map` options among arguments.  The option `-sn` has no value, all others
have one. -/
def mapValues : List String → List String
  | [] => []
  | [_] => []
  | option :: value :: rest =>
    if option = "-sn" then mapValues (value :: rest)
    else if option = "-map" then value :: mapValues rest
    else mapValues rest

/-- What arguments map, in order. -/
def Arguments.maps (a : Arguments) : List String :=
  mapValues a.tokens

/-- The stream at a position among those of its kind. -/
def streamSelector (kind : StreamKind) (i : Nat) : String :=
  "0:" ++ String.singleton kind.mapLetter ++ ":" ++ toString (i : Int)

theorem toList_streamSelector (kind : StreamKind) (i : Nat) :
    (streamSelector kind i).toList = '0' :: ':' :: kind.mapLetter :: ':' :: Nat.toDigits 10 i := by
  rw [streamSelector, String.toList_append, String.toList_append, String.toList_append,
    Text.toList_toString_ofNat]
  simp

/-- Different streams are named differently. -/
theorem streamSelector_inj {kind other : StreamKind} (hkind : ∀ name, kind ≠ .other name)
    (hother : ∀ name, other ≠ .other name) {i j : Nat} :
    streamSelector kind i = streamSelector other j ↔ kind = other ∧ i = j := by
  constructor
  · intro heq
    have hlist := congrArg String.toList heq
    simp only [toList_streamSelector, List.cons.injEq, true_and] at hlist
    obtain ⟨hletter, hdigits⟩ := hlist
    refine ⟨?_, ?_⟩
    · cases kind <;> cases other <;> simp_all [StreamKind.mapLetter]
    · rw [← Text.ofPlainDigits_toDigits i, hdigits, Text.ofPlainDigits_toDigits]
  · rintro ⟨rfl, rfl⟩
    rfl

theorem streamSelector_ne_video (kind : StreamKind) (i : Nat) : streamSelector kind i ≠ "0:v" := by
  intro heq
  have hlist := congrArg String.toList heq
  rw [toList_streamSelector] at hlist
  simp at hlist

theorem mapValues_pair {option : String} (hoption : option ≠ "-sn") (value : String)
    (rest : List String) :
    mapValues (option :: value :: rest) =
      (if option = "-map" then [value] else []) ++ mapValues rest := by
  rw [mapValues, if_neg hoption]
  split <;> rfl

theorem mapValues_flag (rest : List String) : mapValues ("-sn" :: rest) = mapValues rest := by
  cases rest with
  | nil => rfl
  | cons value rest => rw [mapValues, if_pos rfl]

/-! ## Groups of arguments -/

theorem mapValues_instruction (i : Instruction) (rest : List String) :
    mapValues (i.tokens ++ rest) =
      (if i.kind == .mapSource then ["0:a:" ++ i.inputText] else []) ++ mapValues rest := by
  rcases i.tokens_cases with ⟨hkind, htokens⟩ | ⟨a, hkind, htokens⟩
  · rw [htokens, hkind]
    exact mapValues_pair (by decide) _ rest
  · have hne : ¬ (a.kind == .mapSource) = true := by cases a <;> decide
    rw [htokens, hkind, if_neg hne, List.cons_append, List.cons_append, List.nil_append,
      mapValues_pair (a.option_append_ne (by decide +kernel) _),
      if_neg (a.option_append_ne (by decide +kernel) _)]

/-- Instructions map what those that map a source name. -/
theorem mapValues_instructions (instructions : List Instruction) (rest : List String) :
    mapValues (instructions.flatMap Instruction.tokens ++ rest) =
      (instructions.filter (·.kind == .mapSource)).map (fun i => "0:a:" ++ i.inputText) ++
        mapValues rest := by
  induction instructions with
  | nil => rfl
  | cons i instructions ih =>
    rw [List.flatMap_cons, List.append_assoc, mapValues_instruction, ih, List.filter_cons]
    cases i.kind == .mapSource <;> rfl

/-- A row of blocks maps its sources. -/
theorem Blocks.map_inputText {output : Nat} {sources : List Nat} {row : List Instruction}
    (h : Blocks output sources row) :
    (row.filter (·.kind == .mapSource)).map (fun i => "0:a:" ++ i.inputText) =
      sources.map (streamSelector .audio) := by
  induction h with
  | nil => rfl
  | cons first rest ih =>
    rw [List.filter_append, first.filter_mapSource, List.map_append, ih]
    rfl

theorem Passthrough.tokens_selector {p : Passthrough} {tokens : List String}
    (h : p.tokens = .ok tokens) :
    ∃ option, tokens = ["-map", "0:" ++ String.singleton p.kind.mapLetter ++ ":" ++
      toString p.input, option, "copy"] ∧ option ≠ "-sn" ∧ option ≠ "-map" := by
  obtain ⟨kind, input, output⟩ := p
  obtain ⟨letter, hletter, h⟩ := bind_eq_ok.1 h
  cases h
  refine ⟨"-c:" ++ letter ++ ":" ++ toString output, ?_, ?_, ?_⟩
  · have hkind : letter = String.singleton kind.mapLetter := by
      cases kind <;> cases hletter <;> rfl
    rw [hkind]
    rfl
  · intro heq
    have hlist := congrArg String.toList heq
    simp [String.toList_append] at hlist
  · intro heq
    have hlist := congrArg String.toList heq
    simp [String.toList_append] at hlist

/-- The streams that are passed through are mapped, each by its kind and its position. -/
theorem mapValues_passthrough {passthrough : List Passthrough} {tokens : List String}
    (h : passthroughTokens passthrough = .ok tokens) (rest : List String) :
    mapValues (tokens ++ rest) =
      passthrough.map (fun p => "0:" ++ String.singleton p.kind.mapLetter ++ ":" ++
        toString p.input) ++ mapValues rest := by
  induction passthrough generalizing tokens with
  | nil =>
    cases h
    rfl
  | cons p passthrough ih =>
    obtain ⟨first, hfirst, h⟩ := bind_eq_ok.1 h
    obtain ⟨others, hothers, h⟩ := bind_eq_ok.1 h
    cases h
    obtain ⟨option, rfl, hflag, hmap⟩ := Passthrough.tokens_selector hfirst
    have hpair : ("-map" : String) ≠ "-sn" := by decide
    simp only [List.cons_append, List.nil_append, mapValues_pair hpair, mapValues_pair hflag,
      if_neg hmap, ih hothers, List.map_cons, ↓reduceIte]

theorem mapValues_video (rest : List String) :
    mapValues (["-map", "0:v", "-c:v", "copy"] ++ rest) = "0:v" :: mapValues rest := by
  have hmap : ("-map" : String) ≠ "-sn" := by decide
  have hcodec : ("-c:v" : String) ≠ "-sn" := by decide
  simp only [List.cons_append, List.nil_append, mapValues_pair hmap, mapValues_pair hcodec,
    ↓reduceIte]
  rfl

/-- Behind the streams that are passed through nothing is mapped. -/
theorem mapValues_ending (suppress : Bool) (marker : String) :
    mapValues ((if suppress then ["-sn"] else []) ++
      (if marker.isEmpty then [] else ["-metadata", "copyright=" ++ marker])) = [] := by
  have hmetadata : ("-metadata" : String) ≠ "-sn" := by decide
  cases suppress <;> cases marker.isEmpty <;>
    simp [mapValues, mapValues_flag, mapValues_pair hmetadata]

/-! ## The arguments of a plan -/

/-- The kinds of stream that are mapped one by one. -/
def StreamKind.IsMapped (kind : StreamKind) : Prop :=
  kind = .audio ∨ kind.passes = true

theorem StreamKind.IsMapped.ne_other {kind : StreamKind} (h : kind.IsMapped) (name : String) :
    kind ≠ .other name := by
  rintro rfl
  rcases h with h | h <;> cases h

/-- A stream is mapped as often as it was chosen among those of its kind. -/
theorem count_selector {chosen : List (StreamKind × Nat)} (hchosen : ∀ c ∈ chosen, c.1.IsMapped)
    {kind : StreamKind} (hkind : kind.IsMapped) (i : Nat) :
    (chosen.map fun c => streamSelector c.1 c.2).count (streamSelector kind i) =
      ((chosen.filter (·.1 == kind)).map Prod.snd).count i := by
  induction chosen with
  | nil => rfl
  | cons c chosen ih =>
    obtain ⟨other, j⟩ := c
    obtain ⟨hother, hchosen⟩ := List.forall_mem_cons.1 hchosen
    rw [List.map_cons, List.count_cons, ih hchosen, List.filter_cons]
    simp only [beq_iff_eq, streamSelector_inj hother.ne_other hkind.ne_other]
    by_cases heq : other = kind
    · simp [heq, List.count_cons]
    · simp [heq]

/-- The streams that a plan maps one by one, each with its position among those of its kind. -/
def Plan.chosen (plan : Plan) : List (StreamKind × Nat) :=
  (sourcesOf plan.decisions).map (fun n => (StreamKind.audio, n)) ++
    plan.passthrough.map fun p => (p.kind, p.input.toNat)

section Chosen

variable {plan : Plan}

theorem Plan.isMapped_of_mem_chosen (hpasses : ∀ p ∈ plan.passthrough, p.kind.passes = true) :
    ∀ c ∈ plan.chosen, c.1.IsMapped := by
  intro c hc
  rcases List.mem_append.1 hc with hc | hc
  · obtain ⟨n, -, rfl⟩ := List.mem_map.1 hc
    exact .inl rfl
  · obtain ⟨p, hp, rfl⟩ := List.mem_map.1 hc
    exact .inr (hpasses p hp)

/-- The audio streams among them are the sources of the plan. -/
theorem Plan.filter_chosen_audio (hpasses : ∀ p ∈ plan.passthrough, p.kind.passes = true) :
    (plan.chosen.filter (·.1 == .audio)).map Prod.snd = sourcesOf plan.decisions := by
  have hnone : (plan.passthrough.map fun p => (p.kind, p.input.toNat)).filter
      (·.1 == .audio) = [] := by
    rw [List.filter_eq_nil_iff]
    rintro c hc heq
    obtain ⟨p, hp, rfl⟩ := List.mem_map.1 hc
    have hpass := hpasses p hp
    rw [show p.kind = .audio from beq_iff_eq.1 heq] at hpass
    cases hpass
  rw [Plan.chosen, List.filter_append, hnone, List.append_nil, List.filter_map, List.map_map]
  simp [Function.comp_def]

/-- The streams of another kind among them are those that are passed through. -/
theorem Plan.filter_chosen_passed {kind : StreamKind} (hkind : kind.passes = true) :
    (plan.chosen.filter (·.1 == kind)).map Prod.snd =
      (plan.passthrough.filter (·.kind == kind)).map fun p => p.input.toNat := by
  have hnone : ((sourcesOf plan.decisions).map fun n => (StreamKind.audio, n)).filter
      (·.1 == kind) = [] := by
    rw [List.filter_eq_nil_iff]
    rintro c hc heq
    obtain ⟨n, -, rfl⟩ := List.mem_map.1 hc
    rw [← beq_iff_eq.1 heq] at hkind
    cases hkind
  rw [Plan.chosen, List.filter_append, hnone, List.nil_append, List.filter_map, List.map_map]
  rfl

end Chosen

/-- The arguments for a plan that changes something map the video streams and the chosen ones, which
are the sources of the plan, and of each kind that is passed through the streams whose encoding is
known. -/
theorem Plan.exists_maps {tracks others : List Track} {rs : RuleSet} {plan : Plan}
    (h : (synthesize tracks rs others).outcome = .ok plan) (hchanged : plan.changed = true)
    (marker : Option String) :
    ∃ arguments, plan.arguments marker = .ok arguments ∧
      arguments.maps = "0:v" :: plan.chosen.map (fun c => streamSelector c.1 c.2) ∧
      (∀ c ∈ plan.chosen, c.1.IsMapped) ∧
      (plan.chosen.filter (·.1 == .audio)).map Prod.snd = sourcesOf plan.decisions ∧
      ∀ kind : StreamKind, kind.passes = true → (plan.chosen.filter (·.1 == kind)).map Prod.snd =
        identifiedFrom 0 (others.filter (·.kind == kind)) := by
  obtain ⟨made, passthrough, hmade, hpassthrough, rfl⟩ := synthesize_changed h hchanged
  have hpasses := passthroughFrom_passes hpassthrough
  obtain ⟨other, hother⟩ := passthroughTokens_eq_ok hpasses
  have hselectors : passthrough.map (fun p => "0:" ++ String.singleton p.kind.mapLetter ++ ":" ++
      toString p.input) = (passthrough.map fun p => (p.kind, p.input.toNat)).map
        (fun c => streamSelector c.1 c.2) := by
    rw [List.map_map]
    refine List.map_congr_left fun p hp => ?_
    rw [Function.comp_apply, streamSelector, Int.toNat_of_nonneg
      (passthroughFrom_nonneg hpassthrough p hp)]
  refine ⟨_, Plan.arguments_of_changed hchanged hother marker, ?_,
    Plan.isMapped_of_mem_chosen hpasses, Plan.filter_chosen_audio hpasses, ?_⟩
  · have hgroups : (if passthrough.isEmpty then other ++ ["-sn"] else other) =
        other ++ (if passthrough.isEmpty then ["-sn"] else []) := by
      cases passthrough.isEmpty <;> simp
    rw [Arguments.maps, Arguments.tokens, if_pos rfl, hgroups, List.append_assoc,
      List.append_assoc, List.append_assoc, mapValues_video, mapValues_instructions,
      hmade.blocks.map_inputText, mapValues_passthrough hother, hselectors, mapValues_ending,
      List.append_nil, Plan.chosen, List.map_append, List.map_map, List.map_map]
    rfl
  · intro kind hkind
    have hnat : (passthrough.filter (·.kind == kind)).map (fun p => p.input.toNat) =
        ((passthrough.filter (·.kind == kind)).map Passthrough.input).map Int.toNat := by
      rw [List.map_map]
      rfl
    rw [Plan.filter_chosen_passed hkind, hnat, passthroughFrom_inputs hkind hpassthrough,
      List.map_map]
    exact List.map_id _

/-! ## Streams of the report -/

/-- The streams of a type in a report. -/
def streamsOfType (type : String) (report : Value) : List Value :=
  (reportedStreams report).filter (Value.streamOfType type)

theorem forall₂_getElem? {α β : Type} {R : α → β → Prop} {as : List α} {bs : List β}
    (h : List.Forall₂ R as bs) {i : Nat} {a : α} (ha : as[i]? = some a) :
    ∃ b, bs[i]? = some b ∧ R a b := by
  induction h generalizing i with
  | nil => cases ha
  | @cons x y as bs hxy _ ih =>
    cases i with
    | zero =>
      obtain rfl : x = a := by simpa using ha
      exact ⟨y, rfl, hxy⟩
    | succ i => exact ih (by simpa using ha)

/-- The tracks of a kind are the streams of its type, each read by itself. -/
theorem forall₂_streamsOfType {report : Value} {tracks : List Track}
    (h : List.Forall₂ (fun s t => readTrack s.entries = .ok t) (reportedStreams report) tracks)
    {kind : StreamKind} (hkind : ∀ name, kind ≠ .other name) :
    List.Forall₂ (fun s t => readTrack s.entries = .ok t) (streamsOfType kind.name report)
      (tracks.filter (·.kind == kind)) := by
  refine List.rel_filter ?_ h
  intro s t ht
  show Value.streamOfType kind.name s = true ↔ (t.kind == kind) = true
  rw [beq_iff_eq]
  exact (StreamKind.ofReport_eq_iff (readTrack_eq_ok ht).2.1 hkind).symm

theorem Probe.others_filter {p : Probe} {kind : StreamKind} (hkind : kind.passes = true) :
    p.others.filter (·.kind == kind) = p.tracks.filter (·.kind == kind) := by
  rw [Probe.others, List.filter_filter]
  refine List.filter_congr fun t _ => ?_
  rw [Bool.and_eq_left_iff_imp, beq_iff_eq]
  rintro rfl
  cases hk : t.kind <;> rw [hk] at hkind <;> first | rfl | cases hkind

/-- The streams of a report with different positions, as they are read. -/
theorem Probe.forall₂_tracks {report path : Value} {tag : String} {p : Probe}
    (hread : (Probe.read report path tag).outcome = .ok (some p))
    (hobjects : ∀ s ∈ reportedStreams report, s.IsObject)
    (hdistinct : ((reportedStreams report).map Value.streamIndex).Nodup) :
    List.Forall₂ (fun s t => readTrack s.entries = .ok t) (reportedStreams report) p.tracks := by
  obtain ⟨-, streams, hstreams, hreport⟩ := Probe.read_eq_some_iff.1 hread
  obtain ⟨-, read, htracks, hp⟩ := Probe.ofReport_eq_ok hreport
  have hreported : reportedStreams report = streams := by
    rw [reportedStreams, hstreams]
    rfl
  rw [hreported] at hobjects hdistinct ⊢
  rw [hp]
  exact readTracks_forall₂ htracks hobjects hdistinct fun s _ => List.not_mem_nil

/-- When a file whose streams have different positions is to be changed, the command for it can be
written, and what it maps is in the file.  There is one decision for each audio stream, in order,
with its position; an audio stream is mapped unless it is dropped.  Of the kinds that are passed
through every stream with the name of a codec is mapped once, and no other.  Apart from these only
the video streams are mapped. -/
theorem maps_streams {report path : Value} {tag : String} {p : Probe} {rs : RuleSet} {dryRun : Bool}
    {o : Outcome} (hobjects : ∀ s ∈ reportedStreams report, s.IsObject)
    (hdistinct : ((reportedStreams report).map Value.streamIndex).Nodup)
    (hread : (Probe.read report path tag).outcome = .ok (some p))
    (ho : (process (some p) rs dryRun).outcome = .ok o) (hstatus : o.status = .changed) :
    ∃ arguments, o.plan.arguments o.marker = .ok arguments ∧
      o.plan.decisions.length = (streamsOfType "audio" report).length ∧
      (∀ i, streamSelector .audio i ∈ arguments.maps → i < (streamsOfType "audio" report).length) ∧
      (∀ (i : Nat) (s : Value) (d : Decision), (streamsOfType "audio" report)[i]? = some s →
        o.plan.decisions[i]? = some d → d.input = i ∧ d.stream = .known s.streamIndex ∧
          (streamSelector .audio i ∉ arguments.maps ↔ d.action = .drop)) ∧
      (∀ kind : StreamKind, kind.passes = true → ∀ i,
        (streamSelector kind i ∈ arguments.maps ↔
          ∃ s, (streamsOfType kind.name report)[i]? = some s ∧ s.codecNamed = true) ∧
        arguments.maps.count (streamSelector kind i) ≤ 1) ∧
      ∀ value ∈ arguments.maps,
        value = "0:v" ∨ ∃ kind i, kind.IsMapped ∧ value = streamSelector kind i := by
  obtain ⟨-, hplan, hchanged, -⟩ := (process_eq_ok_iff.1 ho).2.of_changed hstatus
  obtain ⟨arguments, harguments, hmaps, hchosen, hsources, hpassed⟩ :=
    Plan.exists_maps hplan hchanged o.marker
  obtain ⟨made, hmade, hdecisions, -⟩ := synthesize_eq_ok hplan
  have htracks := Probe.forall₂_tracks hread hobjects hdistinct
  have haudio : List.Forall₂ (fun s t => readTrack s.entries = .ok t)
      (streamsOfType "audio" report) p.audio :=
    forall₂_streamsOfType htracks (show StreamKind.audio.IsMapped from .inl rfl).ne_other
  -- How often a stream is mapped is how often it was chosen.
  have hcount : ∀ {kind : StreamKind}, kind.IsMapped → ∀ i,
      arguments.maps.count (streamSelector kind i) =
        ((o.plan.chosen.filter (·.1 == kind)).map Prod.snd).count i := by
    intro kind hkind i
    rw [hmaps, List.count_cons_of_ne (streamSelector_ne_video kind i).symm,
      count_selector hchosen hkind]
  have hmem : ∀ {kind : StreamKind}, kind.IsMapped → ∀ i,
      streamSelector kind i ∈ arguments.maps ↔
        i ∈ (o.plan.chosen.filter (·.1 == kind)).map Prod.snd := by
    intro kind hkind i
    rw [← List.count_pos_iff, hcount hkind, List.count_pos_iff]
  have hlength : o.plan.decisions.length = (streamsOfType "audio" report).length := by
    rw [hdecisions, List.length_map, hmade.length_eq, haudio.length_eq]
  rw [hdecisions] at hsources hlength ⊢
  refine ⟨arguments, harguments, hlength, ?_, ?_, ?_, ?_⟩
  · intro i hi
    rw [hmem (.inl rfl), hsources, mem_sourcesOf] at hi
    obtain ⟨d, hd, -, hinput⟩ := hi
    obtain ⟨j, hj⟩ := List.mem_iff_getElem?.1 hd
    obtain rfl : j = i := (hmade.input_eq hj).symm.trans hinput
    rw [← hlength]
    exact (List.getElem?_eq_some_iff.1 hj).1
  · intro i s d hs hd
    obtain ⟨t, ht, hst⟩ := forall₂_getElem? haudio hs
    refine ⟨hmade.input_eq hd, ?_, ?_⟩
    · rw [(hmade.accounts ht hd).stream_eq, (readTrack_eq_ok hst).1]
    · rw [hmem (.inl rfl), hsources, hmade.mem_sourcesOf_iff hd, not_not]
  · intro kind hkind i
    have hothers := forall₂_streamsOfType htracks (StreamKind.IsMapped.ne_other (.inr hkind))
    rw [hmem (.inr hkind), hcount (.inr hkind), hpassed kind hkind, Probe.others_filter hkind,
      mem_identifiedFrom_zero]
    refine ⟨⟨?_, ?_⟩, List.nodup_iff_count.1 (nodup_identifiedFrom _ _) i⟩
    · rintro ⟨t, ht, hcodec⟩
      obtain ⟨s, hs, hst⟩ := forall₂_getElem? hothers.flip ht
      exact ⟨s, hs, (hasCodec_of_readCodec (readTrack_eq_ok hst).2.2).symm.trans hcodec⟩
    · rintro ⟨s, hs, hcodec⟩
      obtain ⟨t, ht, hst⟩ := forall₂_getElem? hothers hs
      exact ⟨t, ht, (hasCodec_of_readCodec (readTrack_eq_ok hst).2.2).trans hcodec⟩
  · intro value hvalue
    rw [hmaps, List.mem_cons] at hvalue
    refine hvalue.imp_right fun hvalue => ?_
    obtain ⟨c, hc, rfl⟩ := List.mem_map.1 hvalue
    exact ⟨c.1, c.2, hchosen c hc, rfl⟩

/-- The streams of a file, kinds mixed, one of them without the name of a codec. -/
def mixedStreams : List (List (String × Value)) :=
  [[("index", .int 0), ("codec_type", .text "video"), ("codec_name", .text "h264")],
   [("index", .int 1), ("codec_type", .text "audio"), ("codec_name", .text "dts")],
   [("index", .int 2), ("codec_type", .text "subtitle")],
   [("index", .int 3), ("codec_type", .text "audio"), ("codec_name", .text "ac3")],
   [("index", .int 4), ("codec_type", .text "subtitle"), ("codec_name", .text "subrip")]]

/-- The first audio stream is dropped and the second one mapped; of the subtitles the second one,
whose codec is known, is mapped. -/
theorem maps_streams_mixed :
    ∃ p o arguments,
      (Probe.read (.map [("streams", .list (mixedStreams.map .map))]) .null
        Probe.defaultMarkerTag).outcome = .ok (some p) ∧
      (process (some p) mixedRules false).outcome = .ok o ∧ o.status = .changed ∧
      o.plan.arguments o.marker = .ok arguments ∧ o.plan.decisions.length = 2 ∧
      streamSelector .audio 0 ∉ arguments.maps ∧ streamSelector .audio 1 ∈ arguments.maps ∧
      streamSelector .subtitle 0 ∉ arguments.maps ∧
      arguments.maps.count (streamSelector .subtitle 1) = 1 := by
  have hseen : ((Probe.read (.map [("streams", .list (mixedStreams.map .map))]) .null
      Probe.defaultMarkerTag).outcome.toOption.join.bind fun p =>
        (process (some p) mixedRules false).outcome.toOption.map fun o =>
          (o.status, o.plan.decisions.map Decision.action)) =
            some (.changed, [.drop, .unmatchedCopy]) := by decide +kernel
  obtain ⟨p, o, hp, ho, hf⟩ := exists_read_process hseen
  obtain ⟨hstatus, hactions⟩ := Prod.mk.inj hf
  have hobjects : ∀ s ∈ reportedStreams (.map [("streams", .list (mixedStreams.map .map))]),
      s.IsObject := by
    intro s hs
    obtain ⟨entries, -, rfl⟩ := List.mem_map.1 hs
    exact ⟨entries, rfl⟩
  obtain ⟨arguments, harguments, hlength, -, haudio, hpassed, -⟩ :=
    maps_streams hobjects (by decide +kernel) hp ho hstatus
  obtain ⟨dropped, copied, hdecisions⟩ : ∃ a b, o.plan.decisions = [a, b] :=
    List.length_eq_two.1 hlength
  rw [hdecisions, List.map_cons, List.map_cons, List.cons.injEq, List.cons.injEq] at hactions
  have hfirst := haudio 0 _ dropped rfl (by rw [hdecisions]; rfl)
  have hsecond := haudio 1 _ copied rfl (by rw [hdecisions]; rfl)
  have hnone := (hpassed .subtitle rfl 0).1
  obtain ⟨hsome, hone⟩ := hpassed .subtitle rfl 1
  refine ⟨p, o, arguments, hp, ho, hstatus, harguments, hlength, hfirst.2.2.2 hactions.1, ?_, ?_,
    ?_⟩
  · by_contra hmapped
    have hdrop := hsecond.2.2.1 hmapped
    rw [hactions.2.1] at hdrop
    cases hdrop
  · rw [hnone]
    rintro ⟨s, hs, hcodec⟩
    cases hs
    exact absurd hcodec (by decide)
  · have hmem := List.count_pos_iff.2 (hsome.2 ⟨_, rfl, by decide⟩)
    omega

end AudioPlan
