import AudioPlan.Marker
import AudioPlan.Proofs.Value.Fits

/-!
# Rule sets that have a marker

The canonical document of a rule set has integers in one place only: the channel counts and bit
rates that its transcode operations ask for.  If all of them can be written (`RuleSet.Writable`),
the rule set has its watermark for a marker, and otherwise it has no marker (`marker_eq_ok_iff`,
`faults_marker_iff`).
-/

namespace AudioPlan

/-! ## Documents without integers -/

theorem fits_texts (texts : List String) : (Value.list (texts.map .text)).fits = true := by
  rw [Value.fits_list_iff]
  intro v hv
  obtain ⟨s, -, rfl⟩ := List.mem_map.1 hv
  rfl

theorem fits_flagsDocument (flags : List (String × Bool)) : (flagsDocument flags).fits = true := by
  rw [flagsDocument, Value.fits_map_iff]
  intro entry hentry
  obtain ⟨flag, -, rfl⟩ := List.mem_map.1 hentry
  rfl

theorem fits_flagsEntry (flags : List (String × Bool)) :
    ∀ entry ∈ flagsEntry flags, entry.2.fits = true := by
  unfold flagsEntry
  split
  · exact nofun
  · rw [List.forall_mem_singleton]
    exact fits_flagsDocument flags

theorem fits_conditionsEntry (key : String) (conditions : List Condition) :
    ∀ entry ∈ conditionsEntry key conditions, entry.2.fits = true := by
  unfold conditionsEntry
  split
  · exact nofun
  · rw [List.forall_mem_singleton, ← Function.comp_def, ← List.map_map]
    exact fits_texts _

theorem fits_optionalEntry_iff {α : Type} {key : String} {form : α → Value} {o : Option α} :
    (∀ entry ∈ optionalEntry key form o, entry.2.fits = true) ↔
      ∀ a, o = some a → (form a).fits = true := by
  cases o with
  | none => simp [optionalEntry]
  | some a => simp [optionalEntry]

theorem Selector.fits_document (selector : Selector) : selector.document.fits = true := by
  cases selector with
  | all => rfl
  | anyOf codecs => exact fits_texts codecs
  | allExcept codec => rfl

theorem Criteria.fits_document (c : Criteria) : c.document.fits = true := by
  rw [Criteria.document, Value.fits_map_iff]
  simp only [List.forall_mem_append, List.forall_mem_singleton, fits_optionalEntry_iff]
  exact ⟨⟨⟨⟨⟨c.codecs.fits_document, fits_conditionsEntry _ _⟩, fits_conditionsEntry _ _⟩,
    fun languages _ => fits_texts languages⟩, fun flags _ => fits_flagsDocument flags⟩,
    fun _ _ => rfl⟩

/-! ## Operations and rules -/

/-- The numbers that an operation asks for can be written. -/
def Operation.Writable : Operation → Prop
  | .copy _ => True
  | .transcode o =>
    (∀ n, o.channels = some n → Text.fits n = true) ∧ ∀ n, o.bitRate = some n → Text.fits n = true

/-- The numbers that the operations of a rule ask for can be written. -/
def Rule.Writable (r : Rule) : Prop :=
  ∀ operation ∈ r.operations, operation.Writable

/-- The numbers that the rules ask for can be written. -/
def RuleSet.Writable (rs : RuleSet) : Prop :=
  ∀ r ∈ rs.rules, r.Writable

theorem Operation.fits_document_iff {operation : Operation} :
    operation.document.fits = true ↔ operation.Writable := by
  cases operation with
  | copy o =>
    refine iff_of_true ?_ trivial
    simp only [Operation.document, Value.fits_map_iff, List.forall_mem_singleton,
      List.forall_mem_append, fits_optionalEntry_iff]
    exact ⟨fun _ _ => rfl, fits_flagsEntry o.dispositions⟩
  | transcode o =>
    simp only [Operation.document, Value.fits_map_iff, List.forall_mem_singleton,
      List.forall_mem_append, fits_optionalEntry_iff, Value.fits_text, Value.fits_int,
      Operation.Writable]
    constructor
    · rintro ⟨⟨⟨⟨⟨-, hchannels⟩, hbitRate⟩, -⟩, -⟩, -⟩
      exact ⟨hchannels, hbitRate⟩
    · rintro ⟨hchannels, hbitRate⟩
      exact ⟨⟨⟨⟨⟨trivial, hchannels⟩, hbitRate⟩, fun _ _ => trivial⟩, fun _ _ => trivial⟩,
        fits_flagsEntry o.dispositions⟩

theorem Rule.fits_document_iff {r : Rule} : r.document.fits = true ↔ r.Writable := by
  simp only [Rule.document, Value.fits_map_iff, List.forall_mem_append, List.forall_mem_cons,
    fits_optionalEntry_iff, Value.fits_list_iff, List.forall_mem_map, Operation.fits_document_iff,
    r.criteria.fits_document]
  constructor
  · rintro ⟨-, -, hoperations, -⟩
    exact hoperations
  · intro hoperations
    exact ⟨fun _ _ => rfl, trivial, hoperations, nofun⟩

theorem RuleSet.fits_document_iff {rs : RuleSet} : rs.document.fits = true ↔ rs.Writable := by
  simp only [RuleSet.document, Value.fits_list_iff, List.forall_mem_map, Rule.fits_document_iff,
    RuleSet.Writable]

theorem RuleSet.not_writable_iff {rs : RuleSet} : ¬ rs.Writable ↔ rs.document.fits = false := by
  rw [← RuleSet.fits_document_iff, Bool.not_eq_true]

/-! ## Markers -/

theorem marker_eq_ok_iff {rs : RuleSet} {marker : String} :
    rs.marker = .ok marker ↔ rs.Writable ∧ rs.watermark = marker := by
  rw [RuleSet.marker, bind_eq_ok]
  simp only [Json.Layout.render, Value.ifFits_eq_ok_iff, RuleSet.fits_document_iff]
  constructor
  · rintro ⟨payload, ⟨hwritable, rfl⟩, ⟨rfl⟩⟩
    exact ⟨hwritable, rfl⟩
  · rintro ⟨hwritable, rfl⟩
    exact ⟨_, ⟨hwritable, rfl⟩, rfl⟩

theorem marker_of_writable {rs : RuleSet} (h : rs.Writable) : rs.marker = .ok rs.watermark :=
  marker_eq_ok_iff.2 ⟨h, rfl⟩

theorem marker_of_not_writable {rs : RuleSet} (h : ¬ rs.Writable) :
    rs.marker = .error .badValue := by
  rw [RuleSet.marker, Json.Layout.render, Value.ifFits, RuleSet.not_writable_iff.1 h,
    if_neg Bool.false_ne_true]
  rfl

theorem faults_marker_iff {rs : RuleSet} : Faults rs.marker ↔ ¬ rs.Writable := by
  rw [RuleSet.marker, faults_bind_iff_left (fun payload => not_faults_pure _), Json.Layout.render,
    Value.faults_ifFits_iff, RuleSet.not_writable_iff]

end AudioPlan
