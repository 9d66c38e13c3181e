import AudioPlan.Proofs.Plan.Shadowing

/-!
# Unmatched tracks

A track that no rule matches is treated as if a rule for a bare copy matched it.  Such a rule, put
behind all others, takes exactly the tracks that were unmatched and leaves the plan as it was, but
for the marker and for what is said about these tracks (`synthesize_bareCopy`).

* `Track.findRule_append_of_meets` is about the search with a rule at the end that matches;
* `Decided.bareCopy` is the step for one track and `DecidedAll.bareCopy` the run over all of them;
* `Plan.SameCommand` is agreement on all that a command is made of, with
  `Plan.SameCommand.exists_arguments`.
-/

namespace AudioPlan

/-- A rule that copies every track, without a title and without flags. -/
def bareCopyRule (name : Option String) : Rule :=
  { criteria := { codecs := .all }, operations := [.copy {}], name := name }

/-- A rule set with a rule for a bare copy at its end. -/
def RuleSet.withBareCopy (rs : RuleSet) (name : Option String) : RuleSet :=
  ⟨rs.rules ++ [bareCopyRule name]⟩

/-- A bare copy asks for no number. -/
theorem RuleSet.writable_withBareCopy {rs : RuleSet} (h : rs.Writable) (name : Option String) :
    (rs.withBareCopy name).Writable := by
  refine List.forall_mem_append.2 ⟨h, ?_⟩
  rw [List.forall_mem_singleton, Rule.Writable, bareCopyRule, List.forall_mem_singleton]
  trivial

/-! ## The search -/

/-- A rule at the end that matches is found where none of the others is. -/
theorem Track.findRule_append_of_meets {t : Track} {last : Rule}
    (hlast : t.meets last.criteria = .ok true) (rules : List Rule) :
    t.findRule ⟨rules ++ [last]⟩ =
      (t.findRule ⟨rules⟩).map fun found => some (found.getD last) := by
  induction rules with
  | nil =>
    rw [List.nil_append, Track.findRule_cons, hlast]
    rfl
  | cons rule rules ih =>
    rw [List.cons_append, Track.findRule_cons, Track.findRule_cons]
    cases t.meets rule.criteria with
    | error fault => rfl
    | ok matched =>
      cases matched with
      | true => rfl
      | false => exact ih

/-- The rule for a bare copy asks for nothing, so no field of a track can make it fail. -/
theorem meets_bareCopyRule (t : Track) (name : Option String) :
    t.meets (bareCopyRule name).criteria = .ok true := rfl

theorem findRule_withBareCopy (t : Track) (rs : RuleSet) (name : Option String) :
    t.findRule (rs.withBareCopy name) =
      (t.findRule rs).map fun found => some (found.getD (bareCopyRule name)) :=
  Track.findRule_append_of_meets (meets_bareCopyRule t name) rs.rules

/-! ## What becomes of the tracks -/

/-- A decision, where that to copy an unmatched track is said to be the work of a rule. -/
def Decision.creditedTo (rule : Rule) (d : Decision) : Decision :=
  if d.action = .unmatchedCopy then
    { d with action := .apply, rule := some rule.label, notes := ["copying track"] }
  else d

theorem Decision.creditedTo_outputs (rule : Rule) (d : Decision) :
    (d.creditedTo rule).outputs = d.outputs := by
  unfold Decision.creditedTo
  split
  · rfl
  · rfl

theorem Decision.creditedTo_action_ne (rule : Rule) (d : Decision) :
    (d.creditedTo rule).action ≠ .unmatchedCopy := by
  unfold Decision.creditedTo
  split
  · exact nofun
  · assumption

/-- What becomes of a track, with its decision credited to a rule. -/
def TrackPlan.creditedTo (rule : Rule) (made : TrackPlan) : TrackPlan :=
  { made with decision := made.decision.creditedTo rule }

/-- The operation of the rule for a bare copy makes what an unmatched track gets. -/
theorem madeAll_bareCopyRule (t : Track) (name : Option String) (input output : Nat) :
    MadeAll t (bareCopyRule name) input output (bareCopyRule name).operations
      [{ instructions := copyStream input output, note := "copying track" }] :=
  .cons rfl (.nil (output + 1))

section Steps

variable {rs : RuleSet} {input output : Nat}

/-- With the rule at the end, a track gets the instructions that it got without. -/
theorem Decided.bareCopy {t : Track} {made : TrackPlan} (h : Decided rs input output t made)
    (name : Option String) :
    Decided (rs.withBareCopy name) input output t (made.creditedTo (bareCopyRule name)) := by
  have hsearch := findRule_withBareCopy t rs name
  cases h with
  | unmatched hrule =>
    rw [hrule] at hsearch
    exact .applied hsearch (List.cons_ne_nil _ _) (madeAll_bareCopyRule t name input output)
  | dropped hrule hoperations =>
    rw [hrule] at hsearch
    exact .dropped hsearch hoperations
  | applied hrule hoperations hmade =>
    rw [hrule] at hsearch
    exact .applied hsearch hoperations hmade

/-- The same for a row of tracks: crediting a rule moves no position, so the induction goes on at
the positions at which it went on before. -/
theorem DecidedAll.bareCopy {tracks : List Track} {made : List TrackPlan}
    (h : DecidedAll rs input output tracks made) (name : Option String) :
    DecidedAll (rs.withBareCopy name) input output tracks
      (made.map (TrackPlan.creditedTo (bareCopyRule name))) := by
  induction h with
  | nil input output => exact .nil input output
  | @cons input output t tracks made others first rest ih =>
    refine .cons (first.bareCopy name) ?_
    have houtputs := made.decision.creditedTo_outputs (bareCopyRule name)
    rw [TrackPlan.creditedTo, houtputs]
    exact ih

end Steps

/-! ## The plan -/

/-- Two plans agree on all that a command is made of, apart from the marker. -/
structure Plan.SameCommand (p q : Plan) : Prop where
  changed : p.changed = q.changed
  instructions : p.instructions = q.instructions
  copyVideo : p.copyVideo = q.copyVideo
  passthrough : p.passthrough = q.passthrough
  suppressOther : p.suppressOther = q.suppressOther

/-- Such plans have the same video, audio and other arguments, whatever their markers are. -/
theorem Plan.SameCommand.exists_arguments {p q : Plan} (h : p.SameCommand q)
    (hchanged : p.changed = true) (hpasses : ∀ s ∈ p.passthrough, s.kind.passes = true)
    (marker marker' : Option String) :
    ∃ a b, p.arguments marker = .ok a ∧ q.arguments marker' = .ok b ∧
      b.video = a.video ∧ b.audio = a.audio ∧ b.other = a.other := by
  obtain ⟨other, hother⟩ := passthroughTokens_eq_ok hpasses
  refine ⟨_, _, Plan.arguments_of_changed hchanged hother marker,
    Plan.arguments_of_changed (h.changed ▸ hchanged) (h.passthrough ▸ hother) marker', ?_, ?_, ?_⟩
  · simp only [h.copyVideo]
  · simp only [h.instructions]
  · simp only [h.suppressOther]

/-- A plan with another marker, in which a rule is credited with the copies of unmatched tracks. -/
def Plan.creditedTo (rule : Rule) (marker : String) (p : Plan) : Plan :=
  { p with watermark := marker, decisions := p.decisions.map (Decision.creditedTo rule) }

theorem Plan.sameCommand_creditedTo (rule : Rule) (marker : String) (p : Plan) :
    p.SameCommand (p.creditedTo rule marker) :=
  ⟨rfl, rfl, rfl, rfl, rfl⟩

/-- Where a plan changes something, crediting a rule with the copies changes nothing else in it. -/
theorem assembledPlan_creditedTo {rs : RuleSet} {made : List TrackPlan}
    {passthrough : List Passthrough} (h : (assembledPlan rs made passthrough).changed = true)
    (rule : Rule) (rs' : RuleSet) :
    assembledPlan rs' (made.map (TrackPlan.creditedTo rule)) passthrough =
      (assembledPlan rs made passthrough).creditedTo rule rs'.watermark := by
  have hcredited :
      (assembledPlan rs' (made.map (TrackPlan.creditedTo rule)) passthrough).changed = true := by
    -- There is a track, and none of them counts as unmatched any more.
    rw [assembledPlan_changed, Bool.not_eq_true', List.all_eq_false] at h ⊢
    obtain ⟨m, hm, -⟩ := h
    refine ⟨m.creditedTo rule, List.mem_map_of_mem hm, ?_⟩
    rw [beq_iff_eq]
    exact m.decision.creditedTo_action_ne rule
  rw [assembledPlan_of_changed h, assembledPlan_of_changed hcredited]
  simp only [List.flatMap_map, List.map_map, Plan.creditedTo]
  rfl

/-- An unmatched track is treated exactly like one that a rule for a bare copy matches.  A rule set
that makes a plan which changes something makes, with such a rule at its end, the same plan, but for
the marker and for the action, the label and the note of the tracks that were unmatched; and the
video, audio and other arguments of both plans are the same, whatever markers are written. -/
theorem synthesize_bareCopy {tracks others : List Track} {rs : RuleSet} {plan : Plan}
    (hplan : (synthesize tracks rs others).outcome = .ok plan) (hchanged : plan.changed = true)
    (name : Option String) :
    ∃ credited, (synthesize tracks (rs.withBareCopy name) others).outcome = .ok credited ∧
      credited = { plan with
        watermark := (rs.withBareCopy name).watermark
        decisions := plan.decisions.map (Decision.creditedTo (bareCopyRule name)) } ∧
      credited.decisions.map Decision.outputs = plan.decisions.map Decision.outputs ∧
      ∀ marker marker', ∃ a b, plan.arguments marker = .ok a ∧ credited.arguments marker' = .ok b ∧
        b.video = a.video ∧ b.audio = a.audio ∧ b.other = a.other := by
  obtain ⟨made, passthrough, hmade, hpassthrough, hmarker, rfl⟩ := synthesize_eq_ok_iff.1 hplan
  have hwritable := RuleSet.writable_withBareCopy (hmarker hchanged) name
  have hsame := assembledPlan_creditedTo hchanged (bareCopyRule name) (rs.withBareCopy name)
  refine ⟨_, synthesize_eq_ok_iff.2 ⟨_, passthrough, hmade.bareCopy name, hpassthrough,
    fun _ => hwritable, hsame⟩, rfl, ?_, ?_⟩
  · simp only [Plan.creditedTo, List.map_map]
    exact List.map_congr_left fun d _ => d.creditedTo_outputs (bareCopyRule name)
  · intro marker marker'
    refine (Plan.sameCommand_creditedTo _ _ _).exists_arguments hchanged ?_ marker marker'
    rw [assembledPlan_of_changed hchanged]
    exact passthroughFrom_passes hpassthrough

/-- Beside a track that is dropped and one that is made into two, a rule is credited with the copy
of the first one. -/
theorem synthesize_bareCopy_mixed :
    ∃ plan credited, (synthesize mixedTracks mixedRules []).outcome = .ok plan ∧
      plan.changed = true ∧
      plan.decisions.map Decision.action = [.unmatchedCopy, .drop, .apply] ∧
      (synthesize mixedTracks (mixedRules.withBareCopy none) []).outcome = .ok credited ∧
      credited = { plan with
        watermark := (mixedRules.withBareCopy none).watermark
        decisions := plan.decisions.map (Decision.creditedTo (bareCopyRule none)) } ∧
      credited.decisions.map Decision.outputs = plan.decisions.map Decision.outputs ∧
      ∀ marker marker', ∃ a b, plan.arguments marker = .ok a ∧ credited.arguments marker' = .ok b ∧
        b.video = a.video ∧ b.audio = a.audio ∧ b.other = a.other := by
  have hseen : ((synthesize mixedTracks mixedRules []).outcome.toOption.map fun plan =>
      (plan.changed, plan.decisions.map Decision.action)) =
        some (true, [.unmatchedCopy, .drop, .apply]) := by
    decide +kernel
  obtain ⟨plan, hplan, hparts⟩ := exists_eq_ok_of_map hseen
  obtain ⟨hchanged, hactions⟩ := Prod.mk.inj hparts
  obtain ⟨credited, hcredited⟩ := synthesize_bareCopy hplan hchanged none
  exact ⟨plan, credited, hplan, hchanged, hactions, hcredited⟩

end AudioPlan
