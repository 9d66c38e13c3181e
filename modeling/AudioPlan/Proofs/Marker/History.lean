import AudioPlan.Proofs.Marker.Tokens
import AudioPlan.Proofs.Outcome.Cases

/-!
# Files that are processed again and again

A file keeps its marker text between visits.  Each visit processes the file with rules of its own,
on whatever tracks the file has by then, and rewrites the text exactly when its outcome is to be
applied.  `History` is the relation between the text of a file at the start, the visits that it has
had, and its text now.

* `Visit.step` says what one visit does to the text and its tokens;
* `History.text_eq`, `History.extractTokens_eq` and `History.applied_fresh` say what any number of
  visits has done to them;
* `history_idempotent` collects what follows: rules are applied to a file at most once.
-/

namespace AudioPlan

/-- One visit to a file: the rules, whether it is only a dry run, and the file apart from its
marker text. -/
structure Visit where
  rules : RuleSet
  dryRun : Bool
  probe : Probe

/-- What a visit finds when the file has some marker text. -/
def Visit.probeWith (v : Visit) (text : String) : Probe :=
  { v.probe with marker := text }

/-- The outcome of a visit to a file with some marker text. -/
def Visit.outcome (v : Visit) (text : String) : Except Fault Outcome :=
  (process (some (v.probeWith text)) v.rules v.dryRun).outcome

/-- The marker text after an outcome: the new one if the outcome is applied. -/
def Outcome.textAfter (o : Outcome) (text : String) : String :=
  if o.shouldApply then o.marker.getD text else text

/-- A file that started with some marker text has had visits, each with its outcome, and has some
marker text now. -/
inductive History (start : String) : List (Visit × Outcome) → String → Prop
  | start : History start [] start
  | visit {past : List (Visit × Outcome)} {text : String} {v : Visit} {o : Outcome}
      (hpast : History start past text) (ho : v.outcome text = .ok o) :
      History start (past ++ [(v, o)]) (o.textAfter text)

/-- The tokens of the rules that visits applied, in order. -/
def appliedTokens (past : List (Visit × Outcome)) : List String :=
  past.filterMap fun (v, o) => if o.shouldApply then some v.rules.token else none

/-! ## One visit -/

/-- An outcome that is applied has new rules, and adds their marker to the text. -/
theorem Processed.marker_of_shouldApply {p : Probe} {rs : RuleSet} {dryRun : Bool} {o : Outcome}
    (h : Processed p rs dryRun o) (happly : o.shouldApply = true) :
    alreadyProcessed (some p.marker) rs.watermark = false ∧
      o.marker = some (p.marker ++ rs.watermark) := by
  obtain ⟨hstatus, -⟩ : o.status = .changed ∧ o.dryRun = false := by
    simpa [Outcome.shouldApply] using happly
  obtain ⟨hfresh, -, -, hmarker⟩ := h.of_changed hstatus
  exact ⟨hfresh, hmarker⟩

theorem Visit.outcome_eq_ok_iff {v : Visit} {text : String} {o : Outcome} :
    v.outcome text = .ok o ↔
      v.rules.Writable ∧ Processed (v.probeWith text) v.rules v.dryRun o :=
  process_eq_ok_iff

/-- A file with the marker of the rules is left alone. -/
theorem Visit.outcome_of_mem {v : Visit} {text : String} (hrules : v.rules.Writable)
    (hmem : v.rules.token ∈ extractTokens text) :
    ∃ o, v.outcome text = .ok o ∧ o.status = .alreadyProcessed ∧ o.plan = .empty := by
  have hmarked : alreadyProcessed (some (v.probeWith text).marker) v.rules.watermark = true :=
    (alreadyProcessed_iff v.rules.isToken_token text).2 hmem
  exact ⟨_, Visit.outcome_eq_ok_iff.2 ⟨hrules, .marked hmarked⟩, rfl, rfl⟩

/-- What one visit does to the text and its tokens. -/
theorem Visit.step {v : Visit} {text : String} {o : Outcome} (ho : v.outcome text = .ok o) :
    (o.shouldApply = false ∧ o.textAfter text = text) ∨
      (o.shouldApply = true ∧ v.rules.token ∉ extractTokens text ∧
        o.marker = some (text ++ v.rules.watermark) ∧
        o.textAfter text = text ++ v.rules.watermark ∧
        extractTokens (o.textAfter text) = extractTokens text ++ [v.rules.token]) := by
  cases happly : o.shouldApply with
  | false =>
    refine .inl ⟨rfl, ?_⟩
    rw [Outcome.textAfter, happly, if_neg Bool.false_ne_true]
  | true =>
    obtain ⟨hfresh, hmarker⟩ := (Visit.outcome_eq_ok_iff.1 ho).2.marker_of_shouldApply happly
    have hnew : v.rules.token ∉ extractTokens text := by
      intro hmem
      have hmarked := (alreadyProcessed_iff v.rules.isToken_token text).2 hmem
      exact Bool.false_ne_true (hfresh.symm.trans hmarked)
    have htext : o.textAfter text = text ++ v.rules.watermark := by
      rw [Outcome.textAfter, happly, if_pos rfl, hmarker]
      rfl
    refine .inr ⟨rfl, hnew, hmarker, htext, ?_⟩
    rw [htext, extractTokens_append_watermark]

/-! ## Any number of visits -/

theorem appliedTokens_append (past : List (Visit × Outcome)) (v : Visit) (o : Outcome) :
    appliedTokens (past ++ [(v, o)]) =
      appliedTokens past ++ if o.shouldApply then [v.rules.token] else [] := by
  rw [appliedTokens, List.filterMap_append]
  cases happly : o.shouldApply with
  | false => simp [appliedTokens, happly]
  | true => simp [appliedTokens, happly]

section Histories

variable {start text : String} {past : List (Visit × Outcome)}

/-- The text only grows. -/
theorem History.text_eq (h : History start past text) : ∃ added, text = start ++ added := by
  induction h with
  | start => exact ⟨"", String.append_empty.symm⟩
  | @visit past text v o _ ho ih =>
    obtain ⟨added, rfl⟩ := ih
    rcases Visit.step ho with ⟨-, htext⟩ | ⟨-, -, -, htext, -⟩
    · exact ⟨added, htext⟩
    · exact ⟨added ++ v.rules.watermark, by rw [htext, String.append_assoc]⟩

/-- The tokens of the text are those at the start and those of the applied rules, in order. -/
theorem History.extractTokens_eq (h : History start past text) :
    extractTokens text = extractTokens start ++ appliedTokens past := by
  induction h with
  | start => exact (List.append_nil _).symm
  | @visit past text v o _ ho ih =>
    rw [appliedTokens_append]
    rcases Visit.step ho with ⟨happly, htext⟩ | ⟨happly, -, -, -, htokens⟩
    · rw [happly, if_neg Bool.false_ne_true, List.append_nil, htext, ih]
    · rw [happly, if_pos rfl, htokens, ih, List.append_assoc]

/-- No rules are applied twice, and none that had been applied at the start. -/
theorem History.applied_fresh (h : History start past text) :
    (appliedTokens past).Nodup ∧ ∀ t ∈ appliedTokens past, t ∉ extractTokens start := by
  induction h with
  | start => exact ⟨List.nodup_nil, fun t ht => absurd ht List.not_mem_nil⟩
  | @visit past text v o hpast ho ih =>
    rw [appliedTokens_append]
    rcases Visit.step ho with ⟨happly, -⟩ | ⟨happly, hnew, -⟩
    · rw [happly, if_neg Bool.false_ne_true, List.append_nil]
      exact ih
    · -- Being applied, the rules are not among the tokens of the text, so in neither part of them.
      rw [hpast.extractTokens_eq, List.mem_append, not_or] at hnew
      rw [happly, if_pos rfl]
      refine ⟨List.nodup_append.2 ⟨ih.1, by simp, ?_⟩, ?_⟩
      · rintro t ht u hu rfl
        rw [List.mem_singleton] at hu
        exact hnew.2 (hu ▸ ht)
      · intro t ht
        rcases List.mem_append.1 ht with ht | ht
        · exact ih.2 t ht
        · rw [List.mem_singleton.1 ht]
          exact hnew.1

theorem Visit.marker_of_shouldApply {v : Visit} {o : Outcome} (ho : v.outcome text = .ok o)
    (happly : o.shouldApply = true) : o.marker = some (o.textAfter text) := by
  rcases Visit.step ho with ⟨hskip, -⟩ | ⟨-, -, hmarker, htext, -⟩
  · exact absurd (hskip.symm.trans happly) Bool.false_ne_true
  · rw [hmarker, htext]

/-- Whatever visits a file has had, its text has only grown, and its tokens are those at the start
and those of the rules that were applied, in order.  A visit that is applied has a text to write,
and rules that have a marker and whose token is there are not applied again, so none has been
applied twice, and none whose marker was there at the start. -/
theorem history_idempotent (h : History start past text) :
    (∃ added, text = start ++ added) ∧
      extractTokens text = extractTokens start ++ appliedTokens past ∧
      (∀ (v : Visit) (o : Outcome), v.outcome text = .ok o → o.shouldApply = true →
        o.marker = some (o.textAfter text)) ∧
      (∀ v : Visit, v.rules.Writable → v.rules.token ∈ extractTokens text →
        ∃ o, v.outcome text = .ok o ∧ o.status = .alreadyProcessed ∧ o.plan = .empty) ∧
      (appliedTokens past).Nodup ∧
      ∀ t ∈ appliedTokens past, ¬ (formatMarker t).toList <:+: start.toList := by
  refine ⟨h.text_eq, h.extractTokens_eq, fun v o => Visit.marker_of_shouldApply,
    fun v => Visit.outcome_of_mem, h.applied_fresh.1, ?_⟩
  intro t ht hinfix
  have htext : t ∈ extractTokens text := by
    rw [h.extractTokens_eq]
    exact List.mem_append_right _ ht
  have hmem := (mem_extractTokens_iff (isToken_of_mem_extractTokens htext)).2 hinfix
  exact h.applied_fresh.2 t ht hmem

end Histories

/-- A visit with rules that encode every track anew, to a file with one audio track. -/
def encodingVisit : Visit where
  rules := ⟨[{ criteria := { codecs := .all }, operations := [.transcode { codec := "ac3" }] }]⟩
  dryRun := false
  probe := { tracks := [{ index := .known 1, codec := .known (some "aac") }] }

theorem encodingVisit_writable : encodingVisit.rules.Writable :=
  RuleSet.fits_document_iff.1 (by decide +kernel)

theorem encodingVisit_applies :
    ∃ o, encodingVisit.outcome "(c) 2024 " = .ok o ∧ o.shouldApply = true := by
  have hfresh : alreadyProcessed (some (encodingVisit.probeWith "(c) 2024 ").marker)
      encodingVisit.rules.watermark = false := by
    have hnone : extractTokens (encodingVisit.probeWith "(c) 2024 ").marker = [] := by
      decide +kernel
    rw [← Bool.not_eq_true, RuleSet.watermark,
      alreadyProcessed_iff encodingVisit.rules.isToken_token, hnone]
    exact List.not_mem_nil
  have haudio : (encodingVisit.probeWith "(c) 2024 ").audio ≠ [] := by decide
  have hseen : (synthesize (encodingVisit.probeWith "(c) 2024 ").audio encodingVisit.rules
      (encodingVisit.probeWith "(c) 2024 ").others).outcome.toOption.map Plan.changed =
        some true := by decide +kernel
  obtain ⟨plan, hplan, hnew⟩ := exists_eq_ok_of_map hseen
  have hchanged : Processed (encodingVisit.probeWith "(c) 2024 ") encodingVisit.rules false _ :=
    .changed hfresh haudio hplan hnew
  exact ⟨_, Visit.outcome_eq_ok_iff.2 ⟨encodingVisit_writable, hchanged⟩, rfl⟩

/-- The same rules twice: the first visit applies them, the second one finds their marker. -/
theorem history_idempotent_twice :
    ∃ past text, History "(c) 2024 " past text ∧ past.length = 2 ∧
      appliedTokens past = [encodingVisit.rules.token] ∧
      (∃ added, text = "(c) 2024 " ++ added) ∧
      extractTokens text = extractTokens "(c) 2024 " ++ appliedTokens past ∧
      (∀ (v : Visit) (o : Outcome), v.outcome text = .ok o → o.shouldApply = true →
        o.marker = some (o.textAfter text)) ∧
      (∀ v : Visit, v.rules.Writable → v.rules.token ∈ extractTokens text →
        ∃ o, v.outcome text = .ok o ∧ o.status = .alreadyProcessed ∧ o.plan = .empty) ∧
      (appliedTokens past).Nodup ∧
      ∀ t ∈ appliedTokens past, ¬ (formatMarker t).toList <:+: "(c) 2024 ".toList := by
  obtain ⟨first, hfirst, happly⟩ := encodingVisit_applies
  have hone := History.visit .start hfirst
  have hmem : encodingVisit.rules.token ∈ extractTokens (first.textAfter "(c) 2024 ") := by
    rw [hone.extractTokens_eq, appliedTokens_append, happly]
    simp
  obtain ⟨second, hsecond, hstatus, -⟩ := Visit.outcome_of_mem encodingVisit_writable hmem
  have htwo := History.visit hone hsecond
  refine ⟨_, _, htwo, rfl, ?_, history_idempotent htwo⟩
  rw [appliedTokens_append, appliedTokens_append, happly]
  simp [appliedTokens, Outcome.shouldApply, hstatus]

end AudioPlan
