import AudioPlan.Plan.Arguments
import AudioPlan.Plan.Synthesis
import AudioPlan.Proofs.Log.Success

/-!
# Streams that are passed through

Subtitles, data and attachments whose encoding is known are passed through, in order.  Positions are
counted apart for each kind: those of the old file over all streams of the kind, those of the new
file over the streams that are kept.

* `passedStreams` reads the selection off the list of streams, and `planPassthrough_eq` says that
  the two counters of the loop give the same;
* `passthroughFrom_inputs` and `passthroughFrom_outputs` are about the positions within one kind;
* `Passthrough.copied` are the arguments for one stream, and `passthroughTokens_eq` says that no
  kind of stream that is passed through lacks them;
* `Plan.arguments_eq_ok` says that the arguments for a plan that the synthesis makes can always be
  written.
-/

namespace AudioPlan

theorem passthroughFrom_passes {seen kept : List StreamKind} {others : List Track}
    {passthrough : List Passthrough}
    (h : (passthroughFrom seen kept others).outcome = .ok passthrough) :
    ∀ p ∈ passthrough, p.kind.passes = true := by
  induction others generalizing seen kept passthrough with
  | nil =>
    rw [passthroughFrom, Logged.outcome_pure] at h
    cases h
    simp
  | cons t others ih =>
    rw [passthroughFrom] at h
    split at h
    · exact ih h
    · rename_i hpasses
      split at h
      · rw [Logged.outcome_write_bind] at h
        exact ih h
      · obtain ⟨rest, hrest, h⟩ := Logged.outcome_bind_eq_ok.1 h
        rw [Logged.outcome_pure] at h
        cases h
        intro p hp
        rcases List.mem_cons.1 hp with rfl | hp
        · simpa using hpasses
        · exact ih hrest p hp

/-- The streams that are passed through can be chosen for any others. -/
theorem exists_passthroughFrom (seen kept : List StreamKind) (others : List Track) :
    ∃ passthrough, (passthroughFrom seen kept others).outcome = .ok passthrough := by
  induction others generalizing seen kept with
  | nil => exact ⟨[], rfl⟩
  | cons t others ih =>
    rw [passthroughFrom]
    split
    · exact ih seen kept
    · split
      · rw [Logged.outcome_write_bind]
        exact ih (t.kind :: seen) kept
      · obtain ⟨rest, hrest⟩ := ih (t.kind :: seen) (t.kind :: kept)
        exact ⟨_, Logged.outcome_bind_eq_ok.2 ⟨rest, hrest, Logged.outcome_pure _⟩⟩

/-- The positions of the tracks whose encoding is known, counted from a number on. -/
def identifiedFrom (n : Nat) (tracks : List Track) : List Nat :=
  ((tracks.zipIdx n).filter fun entry => entry.1.hasCodec).map Prod.snd

theorem identifiedFrom_cons (n : Nat) (t : Track) (tracks : List Track) :
    identifiedFrom n (t :: tracks) =
      (if t.hasCodec then [n] else []) ++ identifiedFrom (n + 1) tracks := by
  rw [identifiedFrom, List.zipIdx_cons, List.filter_cons]
  cases t.hasCodec <;> rfl

theorem pairwise_lt_identifiedFrom (n : Nat) (tracks : List Track) :
    (identifiedFrom n tracks).Pairwise (· < ·) := by
  have hsublist : (identifiedFrom n tracks).Sublist ((tracks.zipIdx n).map Prod.snd) :=
    List.filter_sublist.map Prod.snd
  rw [List.zipIdx_map_snd] at hsublist
  exact List.Pairwise.sublist hsublist List.pairwise_lt_range'

theorem nodup_identifiedFrom (n : Nat) (tracks : List Track) : (identifiedFrom n tracks).Nodup :=
  (pairwise_lt_identifiedFrom n tracks).imp Nat.ne_of_lt

theorem mem_identifiedFrom_zero {tracks : List Track} {i : Nat} :
    i ∈ identifiedFrom 0 tracks ↔ ∃ t, tracks[i]? = some t ∧ t.hasCodec = true := by
  rw [identifiedFrom, List.mem_map]
  constructor
  · rintro ⟨⟨t, j⟩, hentry, rfl⟩
    rw [List.mem_filter, List.mem_zipIdx_iff_getElem?] at hentry
    exact ⟨t, hentry⟩
  · rintro ⟨t, ht, hcodec⟩
    exact ⟨(t, i), List.mem_filter.2 ⟨List.mem_zipIdx_iff_getElem?.2 ht, hcodec⟩, rfl⟩

/-- Of a suitable kind the streams whose encoding is known are passed through, in order.  Positions
go on where the streams before end. -/
theorem passthroughFrom_inputs {kind : StreamKind} (hkind : kind.passes = true)
    {seen kept : List StreamKind} {others : List Track} {passthrough : List Passthrough}
    (h : (passthroughFrom seen kept others).outcome = .ok passthrough) :
    (passthrough.filter (·.kind == kind)).map Passthrough.input =
      (identifiedFrom (seen.count kind) (others.filter (·.kind == kind))).map Int.ofNat := by
  induction others generalizing seen kept passthrough with
  | nil =>
    rw [passthroughFrom, Logged.outcome_pure] at h
    cases h
    rfl
  | cons t others ih =>
    rw [passthroughFrom] at h
    rw [List.filter_cons]
    split at h
    · rename_i hpasses
      have hne : ¬ (t.kind == kind) = true := by
        rw [beq_iff_eq]
        rintro rfl
        simp [hkind] at hpasses
      rw [if_neg hne]
      exact ih h
    · -- The stream counts for its kind, whether or not it is passed through.
      have hseen : (t.kind :: seen).count kind =
          seen.count kind + if t.kind == kind then 1 else 0 := List.count_cons
      split at h
      · rename_i hunknown
        have hcodec : t.hasCodec = false := by simpa using hunknown
        rw [Logged.outcome_write_bind] at h
        rw [ih h, hseen]
        cases t.kind == kind with
        | false => rfl
        | true =>
          rw [if_pos rfl, if_pos rfl, identifiedFrom_cons, hcodec]
          rfl
      · rename_i hknown
        have hcodec : t.hasCodec = true := by simpa using hknown
        obtain ⟨rest, hrest, h⟩ := Logged.outcome_bind_eq_ok.1 h
        rw [Logged.outcome_pure] at h
        cases h
        rw [List.filter_cons]
        cases heq : t.kind == kind with
        | false =>
          rw [heq] at hseen
          rw [if_neg Bool.false_ne_true, if_neg Bool.false_ne_true, ih hrest, hseen]
          rfl
        | true =>
          rw [heq] at hseen
          rw [if_pos rfl, if_pos rfl, List.map_cons, ih hrest, hseen, identifiedFrom_cons, hcodec,
            beq_iff_eq.1 heq]
          rfl

/-- The streams of one kind that are passed through get consecutive positions in the new file, which
go on where the streams that were kept before end. -/
theorem passthroughFrom_outputs (kind : StreamKind) {seen kept : List StreamKind}
    {others : List Track} {passthrough : List Passthrough}
    (h : (passthroughFrom seen kept others).outcome = .ok passthrough) :
    (passthrough.filter (·.kind == kind)).map Passthrough.output =
      (List.range' (kept.count kind) (passthrough.filter (·.kind == kind)).length).map
        Int.ofNat := by
  induction others generalizing seen kept passthrough with
  | nil =>
    rw [passthroughFrom, Logged.outcome_pure] at h
    cases h
    rfl
  | cons t others ih =>
    rw [passthroughFrom] at h
    split at h
    · exact ih h
    · split at h
      · rw [Logged.outcome_write_bind] at h
        exact ih h
      · obtain ⟨rest, hrest, h⟩ := Logged.outcome_bind_eq_ok.1 h
        rw [Logged.outcome_pure] at h
        cases h
        have hkept : (t.kind :: kept).count kind =
            kept.count kind + if t.kind == kind then 1 else 0 := List.count_cons
        have hothers := ih hrest
        rw [List.filter_cons]
        cases heq : t.kind == kind with
        | false =>
          rw [heq, if_neg Bool.false_ne_true] at hkept
          rw [hkept] at hothers
          rw [if_neg Bool.false_ne_true]
          exact hothers
        | true =>
          rw [heq, if_pos rfl] at hkept
          rw [if_pos rfl, List.map_cons, hothers, hkept, List.length_cons, List.range'_succ,
            List.map_cons, beq_iff_eq.1 heq]
          rfl

/-! ## The selection read off the streams -/

/-- The stream is to be kept: it is of a kind that is passed through, and its encoding is known. -/
def Track.isPassed (t : Track) : Bool :=
  t.kind ∈ [StreamKind.subtitle, .data, .attachment] && t.hasCodec

theorem StreamKind.passes_iff (kind : StreamKind) :
    kind.passes = true ↔ kind ∈ [StreamKind.subtitle, .data, .attachment] := by
  cases kind <;> simp [StreamKind.passes]

theorem Track.isPassed_eq (t : Track) : t.isPassed = (t.kind.passes && t.hasCodec) := by
  rw [Track.isPassed, Bool.eq_iff_iff, Bool.and_eq_true, Bool.and_eq_true, decide_eq_true_eq,
    t.kind.passes_iff]

/-- A stream with the number of streams of its kind in front of it, and the number of those among
them that are kept. -/
def Track.passedBehind (before : List Track) (t : Track) : Passthrough where
  kind := t.kind
  input := before.countP (·.kind == t.kind)
  output := before.countP fun s => s.isPassed && s.kind == t.kind

/-- The streams that are to be kept, in order. -/
def passedStreams (others : List Track) : List Passthrough :=
  (others.zipIdx.filter fun entry => entry.1.isPassed).map fun entry =>
    entry.1.passedBehind (others.take entry.2)

/-- The counters of the loop count the streams that it has gone through. -/
structure Counted (before : List Track) (seen kept : List StreamKind) : Prop where
  seen : ∀ kind : StreamKind, kind.passes = true →
    seen.count kind = before.countP (·.kind == kind)
  kept : ∀ kind : StreamKind, kind.passes = true →
    kept.count kind = before.countP fun s => s.isPassed && s.kind == kind

section Counted

variable {before : List Track} {seen kept : List StreamKind} {t : Track}

theorem Counted.skip (h : Counted before seen kept) (hpasses : t.kind.passes = false) :
    Counted (before ++ [t]) seen kept := by
  have hne : ∀ kind : StreamKind, kind.passes = true → (t.kind == kind) = false := by
    intro kind hkind
    rw [beq_eq_false_iff_ne]
    rintro rfl
    rw [hpasses] at hkind
    cases hkind
  constructor
  · intro kind hkind
    rw [List.countP_append, List.countP_singleton, hne kind hkind, h.seen kind hkind]
    rfl
  · intro kind hkind
    rw [List.countP_append, List.countP_singleton, hne kind hkind, Bool.and_false,
      h.kept kind hkind]
    rfl

theorem Counted.drop (h : Counted before seen kept) (hcodec : t.isPassed = false) :
    Counted (before ++ [t]) (t.kind :: seen) kept := by
  constructor
  · intro kind hkind
    rw [List.countP_append, List.countP_singleton, List.count_cons, h.seen kind hkind]
  · intro kind hkind
    rw [List.countP_append, List.countP_singleton, hcodec, Bool.false_and, h.kept kind hkind]
    rfl

theorem Counted.keep (h : Counted before seen kept) (hpassed : t.isPassed = true) :
    Counted (before ++ [t]) (t.kind :: seen) (t.kind :: kept) := by
  constructor
  · intro kind hkind
    rw [List.countP_append, List.countP_singleton, List.count_cons, h.seen kind hkind]
  · intro kind hkind
    rw [List.countP_append, List.countP_singleton, hpassed, Bool.true_and, List.count_cons,
      h.kept kind hkind]

end Counted

/-- From any place in a list of streams on, the loop selects those that are to be kept. -/
theorem passthroughFrom_eq {before : List Track} {seen kept : List StreamKind}
    (hcounted : Counted before seen kept) (others : List Track) :
    (passthroughFrom seen kept others).outcome =
      .ok (((others.zipIdx before.length).filter fun entry => entry.1.isPassed).map fun entry =>
        entry.1.passedBehind ((before ++ others).take entry.2)) := by
  induction others generalizing before seen kept with
  | nil => rfl
  | cons t others ih =>
    have hnext : ∀ {seen kept : List StreamKind}, Counted (before ++ [t]) seen kept →
        (passthroughFrom seen kept others).outcome =
          .ok (((others.zipIdx (before.length + 1)).filter fun entry =>
            entry.1.isPassed).map fun entry =>
              entry.1.passedBehind ((before ++ t :: others).take entry.2)) := by
      intro seen kept h
      rw [ih h, List.length_append, List.length_singleton, List.append_assoc,
        List.singleton_append]
    rw [passthroughFrom, List.zipIdx_cons, List.filter_cons]
    cases hpasses : t.kind.passes with
    | false =>
      have hdropped : t.isPassed = false := by rw [t.isPassed_eq, hpasses, Bool.false_and]
      rw [if_pos (by rfl), hdropped, if_neg Bool.false_ne_true]
      exact hnext (hcounted.skip hpasses)
    | true =>
      rw [if_neg (by decide)]
      have hkept : t.isPassed = t.hasCodec := by rw [t.isPassed_eq, hpasses, Bool.true_and]
      cases hcodec : t.hasCodec with
      | false =>
        rw [hcodec] at hkept
        rw [if_pos (by rfl), hkept, if_neg Bool.false_ne_true, Logged.outcome_write_bind]
        exact hnext (hcounted.drop hkept)
      | true =>
        rw [hcodec] at hkept
        rw [if_neg (by decide), hkept, if_pos rfl, List.map_cons, List.take_left,
          Logged.outcome_bind, hnext (hcounted.keep hkept), Track.passedBehind,
          ← hcounted.seen t.kind hpasses, ← hcounted.kept t.kind hpasses]
        rfl

/-- The streams that are passed through are those that are to be kept, in order. -/
theorem planPassthrough_eq (others : List Track) :
    (planPassthrough others).outcome = .ok (passedStreams others) := by
  have hcounted : Counted [] [] [] := ⟨fun _ _ => rfl, fun _ _ => rfl⟩
  exact passthroughFrom_eq hcounted others

theorem passthroughFrom_nonneg {seen kept : List StreamKind} {others : List Track}
    {passthrough : List Passthrough}
    (h : (passthroughFrom seen kept others).outcome = .ok passthrough) :
    ∀ p ∈ passthrough, 0 ≤ p.input := by
  intro p hp
  have hkind : p ∈ passthrough.filter (·.kind == p.kind) :=
    List.mem_filter.2 ⟨hp, beq_self_eq_true _⟩
  have hinput := List.mem_map_of_mem (f := Passthrough.input) hkind
  rw [passthroughFrom_inputs (passthroughFrom_passes h p hp) h, List.mem_map] at hinput
  obtain ⟨n, -, hn⟩ := hinput
  rw [← hn]
  exact Int.natCast_nonneg n

/-! ## Arguments -/

/-- The letter by which a kind of stream is named. -/
def StreamKind.mapLetter : StreamKind → Char
  | .video => 'v'
  | .audio => 'a'
  | .subtitle => 's'
  | .data => 'd'
  | .attachment => 't'
  | .other _ => 'u'

/-- The arguments that copy a stream: from its position in the old file to that in the new one. -/
def Passthrough.copied (p : Passthrough) : List String :=
  let letter := String.singleton p.kind.mapLetter
  ["-map", "0:" ++ letter ++ ":" ++ toString p.input,
    "-c:" ++ letter ++ ":" ++ toString p.output, "copy"]

theorem Passthrough.tokens_eq_copied {p : Passthrough} (h : p.kind.passes = true) :
    p.tokens = .ok p.copied := by
  obtain ⟨kind, input, output⟩ := p
  rw [StreamKind.passes_iff] at h
  simp only [List.mem_cons, List.not_mem_nil, or_false] at h
  rcases h with rfl | rfl | rfl <;> rfl

theorem passthroughTokens_eq {passthrough : List Passthrough}
    (h : ∀ p ∈ passthrough, p.kind.passes = true) :
    passthroughTokens passthrough = .ok (passthrough.flatMap Passthrough.copied) := by
  induction passthrough with
  | nil => rfl
  | cons p rest ih =>
    obtain ⟨hp, hrest⟩ := List.forall_mem_cons.1 h
    rw [passthroughTokens, Passthrough.tokens_eq_copied hp, ih hrest]
    rfl

theorem passthroughTokens_eq_ok {passthrough : List Passthrough}
    (h : ∀ p ∈ passthrough, p.kind.passes = true) :
    ∃ tokens, passthroughTokens passthrough = .ok tokens :=
  ⟨_, passthroughTokens_eq h⟩

/-- The arguments for a plan that changes something, with those of the streams that are passed
through. -/
theorem Plan.arguments_of_changed {p : Plan} (hchanged : p.changed = true) {other : List String}
    (hother : passthroughTokens p.passthrough = .ok other) (marker : Option String) :
    p.arguments marker = .ok {
      video := if p.copyVideo then ["-map", "0:v", "-c:v", "copy"] else []
      audio := p.instructions.flatMap Instruction.tokens
      other := if p.suppressOther then other ++ ["-sn"] else other
      metadata := if (marker.getD p.watermark).isEmpty then []
        else ["-metadata", "copyright=" ++ marker.getD p.watermark] } := by
  unfold Plan.arguments
  rw [hchanged, hother]
  rfl

/-- The arguments for a plan that changes something can be written if all streams that it passes
through are of a suitable kind; its audio arguments are the tokens of its instructions. -/
theorem Plan.arguments_eq_ok {p : Plan} (hchanged : p.changed = true)
    (h : ∀ s ∈ p.passthrough, s.kind.passes = true) (marker : Option String) :
    ∃ arguments, p.arguments marker = .ok arguments ∧
      arguments.audio = p.instructions.flatMap Instruction.tokens := by
  obtain ⟨tokens, htokens⟩ := passthroughTokens_eq_ok h
  exact ⟨_, Plan.arguments_of_changed hchanged htokens marker, rfl⟩

end AudioPlan
