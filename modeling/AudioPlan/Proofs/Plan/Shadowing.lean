import AudioPlan.Proofs.Plan.Positions
import AudioPlan.Proofs.Rule.Canonical
import AudioPlan.Proofs.Track.Matching

/-!
# Shadowed rules

A rule is shadowed if a rule in front of it matches every track that it matches.  Such a rule is
inert: without it the synthesis writes the same records and makes the same plan, or ends in the same
fault (`synthesize_shadowed`).  Only the marker differs, which is that of the rule set.  So a
shadowed rule with a number that cannot be written still takes the marker away, and with it every
plan that changes something (`synthesize_shadowed_unwritable`).

* `Track.findRule_cons` and `Track.findRule_shadowed` are about the search for one track;
* `decideAll_congr` and `synthesize_congr` say that a synthesis depends on its rules through these
  searches and the marker.
-/

namespace AudioPlan

/-! ## The search for one track -/

section Search

variable {t : Track}

/-- The rule that is found does not depend on where the positions start. -/
theorem firstMatch_rule_eq (t : Track) (rules : List Rule) (position other : Nat) :
    (t.firstMatch position rules).map (Option.map Prod.snd) =
      (t.firstMatch other rules).map (Option.map Prod.snd) := by
  induction rules generalizing position other with
  | nil => rfl
  | cons rule rules ih =>
    rw [Track.firstMatch, Track.firstMatch]
    cases t.meets rule.criteria with
    | error fault => rfl
    | ok matched =>
      cases matched with
      | true => rfl
      | false => exact ih (position + 1) (other + 1)

theorem Track.findRule_eq_map (t : Track) (rules : List Rule) :
    t.findRule ⟨rules⟩ = (t.firstMatch 0 rules).map (Option.map Prod.snd) := rfl

/-- The search takes the first rule if it matches, and goes on behind it if it does not. -/
theorem Track.findRule_cons (t : Track) (rule : Rule) (rules : List Rule) :
    t.findRule ⟨rule :: rules⟩ = (do
      if ← t.meets rule.criteria then return some rule else t.findRule ⟨rules⟩) := by
  rw [Track.findRule_eq_map, Track.findRule_eq_map, Track.firstMatch]
  cases t.meets rule.criteria with
  | error fault => rfl
  | ok matched =>
    cases matched with
    | true => rfl
    | false => exact firstMatch_rule_eq t rules 1 0

/-- The search passes over a rule that matches no track but those that a rule in front of it
matches. -/
theorem Track.findRule_shadowed {before : List Rule} {shadowed : Rule} {matched : Bool}
    (hmatched : t.meets shadowed.criteria = .ok matched)
    (hcovered : matched = true → ∃ rule ∈ before, t.meets rule.criteria = .ok true)
    (after : List Rule) :
    t.findRule ⟨before ++ shadowed :: after⟩ = t.findRule ⟨before ++ after⟩ := by
  induction before with
  | nil =>
    have hpassed : matched = false := by
      cases matched with
      | false => rfl
      | true =>
        obtain ⟨rule, hmem, -⟩ := hcovered rfl
        exact absurd hmem List.not_mem_nil
    rw [List.nil_append, List.nil_append, Track.findRule_cons, hmatched, hpassed]
    rfl
  | cons rule before ih =>
    rw [List.cons_append, List.cons_append, Track.findRule_cons, Track.findRule_cons]
    cases hrule : t.meets rule.criteria with
    | error fault => rfl
    | ok found =>
      cases found with
      | true => rfl
      | false =>
        -- The first rule does not match, so what covers the shadowed rule comes behind it.
        refine ih fun hmatch => ?_
        obtain ⟨covering, hmem, hmeets⟩ := hcovered hmatch
        rcases List.mem_cons.1 hmem with rfl | hmem
        · rw [hrule] at hmeets
          cases hmeets
        · exact ⟨covering, hmem, hmeets⟩

end Search

/-! ## All tracks -/

section Congruence

variable {rs rs' : RuleSet}

theorem decide_congr {t : Track} (h : t.findRule rs = t.findRule rs') (input output : Nat) :
    decide rs input output t = decide rs' input output t := by
  rw [decide, decide, h]

/-- What becomes of the tracks depends on the rules that are found for them. -/
theorem decideAll_congr {tracks : List Track}
    (h : ∀ t ∈ tracks, t.findRule rs = t.findRule rs') (input output : Nat) :
    decideAll rs input output tracks = decideAll rs' input output tracks := by
  induction tracks generalizing input output with
  | nil => rfl
  | cons t tracks ih =>
    obtain ⟨ht, htracks⟩ := List.forall_mem_cons.1 h
    rw [decideAll, decideAll, decide_congr ht]
    simp only [ih htracks]

theorem Logged.map_pure {α β : Type} (f : α → β) (a : α) : f <$> (pure a : Logged α) = pure (f a) :=
  rfl

theorem Logged.map_bind {α β γ : Type} (f : β → γ) (x : Logged α) (g : α → Logged β) :
    f <$> (x >>= g) = x >>= fun a => f <$> g a := by
  obtain ⟨records, outcome⟩ := x
  cases outcome with
  | error fault => rfl
  | ok a =>
    simp only [Functor.map, bind, Logged.andThen]
    cases (g a).outcome with
    | error fault => rfl
    | ok b => simp only [List.append_assoc]

theorem Logged.bind_congr {α β : Type} {x : Logged α} {f g : α → Logged β}
    (h : ∀ a, x.outcome = .ok a → f a = g a) : x >>= f = x >>= g := by
  obtain ⟨records, outcome⟩ := x
  cases outcome with
  | error fault => rfl
  | ok a => simp only [bind, Logged.andThen, h a rfl]

theorem Logged.ok_bind {α β : Type} (a : α) (f : α → Logged β) :
    ((liftM (.ok a : Except Fault α) : Logged α) >>= f) = f a :=
  rfl

/-- A plan without its marker. -/
def Plan.unmarked (p : Plan) : Plan :=
  { p with watermark := "" }

/-- Rule sets of which the same rules are found make the same plan, but for the marker, if they both
have one wherever they need it. -/
theorem synthesize_congr {tracks : List Track} (h : ∀ t ∈ tracks, t.findRule rs = t.findRule rs')
    (hmarker : ∀ made passthrough, DecidedAll rs' 0 0 tracks made →
      (assembledPlan rs' made passthrough).changed = true → (rs.Writable ↔ rs'.Writable))
    (others : List Track) :
    Plan.unmarked <$> synthesize tracks rs others =
      Plan.unmarked <$> synthesize tracks rs' others := by
  rw [synthesize, synthesize, decideAll_congr h, Logged.map_bind, Logged.map_bind]
  refine Logged.bind_congr fun made hmade => ?_
  by_cases hall : (made.map TrackPlan.decision).all (·.action == .unmatchedCopy) = true
  · simp only [if_pos hall]
  · have hchanged : ∀ passthrough, (assembledPlan rs' made passthrough).changed = true := by
      intro passthrough
      rw [assembledPlan_changed, Bool.not_eq_true']
      rw [List.all_map] at hall
      exact eq_false_of_ne_true hall
    have hwritable : rs.Writable ↔ rs'.Writable :=
      hmarker made [] (decideAll_eq_ok_iff.1 hmade) (hchanged [])
    simp only [if_neg hall, Logged.map_bind, Logged.map_pure, Plan.unmarked]
    refine congrArg _ (funext fun passthrough => ?_)
    by_cases hrs : rs.Writable
    · rw [marker_of_writable hrs, marker_of_writable (hwritable.1 hrs), Logged.ok_bind,
        Logged.ok_bind]
    · rw [marker_of_not_writable hrs, marker_of_not_writable (mt hwritable.2 hrs)]

/-- A rule set that has no marker makes no plan that changes something. -/
theorem synthesize_faults_of_not_writable {tracks others : List Track} {plan : Plan}
    (h : ∀ t ∈ tracks, t.findRule rs = t.findRule rs')
    (hplan : (synthesize tracks rs' others).outcome = .ok plan) (hchanged : plan.changed = true)
    (hrs : ¬ rs.Writable) : Faults (synthesize tracks rs others).outcome := by
  by_contra hok
  obtain ⟨other, hother⟩ := not_faults_iff.1 hok
  obtain ⟨made, passthrough, hmade, -, -, rfl⟩ := synthesize_eq_ok_iff.1 hplan
  obtain ⟨made', passthrough', hmade', -, hmarker, rfl⟩ := synthesize_eq_ok_iff.1 hother
  have hsame : made' = made := by
    have houtcome := decideAll_eq_ok_iff.2 hmade'
    rw [decideAll_congr h, decideAll_eq_ok_iff.2 hmade] at houtcome
    exact (Except.ok.inj houtcome).symm
  refine hrs (hmarker ?_)
  rw [assembledPlan_changed] at hchanged ⊢
  rw [hsame]
  exact hchanged

end Congruence

/-! ## Shadowed rules -/

/-- The rules that are found for tracks whose fields are of their declared kinds are the same
without a rule that matches none of them but those that a rule in front of it matches. -/
theorem findRule_shadowed_eq {shadowed : Rule} (hnormal : shadowed.Normal) {tracks : List Track}
    (htracks : ∀ t ∈ tracks, ∃ f, t.Shows f) {before : List Rule}
    (hcovered : ∀ t ∈ tracks, t.meets shadowed.criteria = .ok true →
      ∃ rule ∈ before, t.meets rule.criteria = .ok true) (after : List Rule) :
    ∀ t ∈ tracks, t.findRule ⟨before ++ [shadowed] ++ after⟩ = t.findRule ⟨before ++ after⟩ := by
  intro t ht
  obtain ⟨f, hshows⟩ := htracks t ht
  obtain ⟨matched, hmatched, -⟩ := meets_decides hshows hnormal.criteria
  rw [List.append_assoc, List.singleton_append]
  refine Track.findRule_shadowed hmatched (fun hmatch => ?_) after
  exact hcovered t ht (hmatch ▸ hmatched)

theorem RuleSet.writable_insert_iff {before after : List Rule} {shadowed : Rule} :
    RuleSet.Writable ⟨before ++ [shadowed] ++ after⟩ ↔
      shadowed.Writable ∧ RuleSet.Writable ⟨before ++ after⟩ := by
  simp only [RuleSet.Writable, List.forall_mem_append, List.forall_mem_singleton]
  constructor
  · rintro ⟨⟨hbefore, hshadowed⟩, hafter⟩
    exact ⟨hshadowed, hbefore, hafter⟩
  · rintro ⟨hshadowed, hbefore, hafter⟩
    exact ⟨⟨hbefore, hshadowed⟩, hafter⟩

/-- A rule that matches no track but those that a rule in front of it matches is inert.  For tracks
whose fields are of their declared kinds, the synthesis with it and the synthesis without it write
the same records and make the same plan, up to the marker, or end in the same fault.  The one
exception is a rule that asks for a number that cannot be written where the plan without it changes
something: the synthesis with it faults then. -/
theorem synthesize_shadowed {d : Value} {rs : RuleSet} (hvalid : validate d = .ok rs)
    {shadowed : Rule} (hshadowed : shadowed ∈ rs.rules)
    {tracks : List Track} (htracks : ∀ t ∈ tracks, ∃ f, t.Shows f) {before : List Rule}
    (hcovered : ∀ t ∈ tracks, t.meets shadowed.criteria = .ok true →
      ∃ rule ∈ before, t.meets rule.criteria = .ok true) (after : List Rule)
    (others : List Track) :
    let whole := synthesize tracks ⟨before ++ [shadowed] ++ after⟩ others
    let rest := synthesize tracks ⟨before ++ after⟩ others
    (shadowed.Writable ∨ (∀ plan, rest.outcome = .ok plan → plan.changed = false) →
      Plan.unmarked <$> whole = Plan.unmarked <$> rest) ∧
    (¬ shadowed.Writable → ∀ plan, rest.outcome = .ok plan → plan.changed = true →
      Faults whole.outcome) := by
  intro whole rest
  have hsame := findRule_shadowed_eq (validate_normal hvalid hshadowed) htracks hcovered after
  constructor
  · intro h
    refine synthesize_congr hsame (fun made passthrough hmade hchanged => ?_) others
    rw [RuleSet.writable_insert_iff]
    refine ⟨And.right, fun hrest => ⟨?_, hrest⟩⟩
    rcases h with hwritable | hunchanged
    · exact hwritable
    · -- The rules have a marker without the shadowed one, so there is a plan with a change.
      obtain ⟨passed, hpassed⟩ := exists_passthroughFrom [] [] others
      have hplan : rest.outcome = .ok (assembledPlan ⟨before ++ after⟩ made passed) :=
        synthesize_eq_ok_iff.2 ⟨made, passed, hmade, hpassed, fun _ => hrest, rfl⟩
      have hnone := hunchanged _ hplan
      rw [assembledPlan_changed] at hnone hchanged
      rw [hnone] at hchanged
      exact absurd hchanged Bool.false_ne_true
  · intro hlong plan hplan hchanged
    exact synthesize_faults_of_not_writable hsame hplan hchanged
      fun hwritable => hlong (RuleSet.writable_insert_iff.1 hwritable).1

/-- A document with one rule, which drops the tracks of a codec. -/
def dropDocument (codec : String) : Value :=
  .list [.map [("match", .map [("codecs", .list [.text codec])]), ("operations", .list [])]]

/-- That rule. -/
def dropRule (codec : String) : Rule :=
  { criteria := { codecs := .anyOf [codec] } }

theorem mixedTracks_shows : ∀ t ∈ mixedTracks, ∃ f, t.Shows f := by
  simp only [mixedTracks, List.forall_mem_cons]
  exact ⟨⟨⟨_, _, _, _, _, _⟩, rfl, rfl, rfl, rfl, rfl, rfl⟩,
    ⟨⟨_, _, _, _, _, _⟩, rfl, rfl, rfl, rfl, rfl, rfl⟩,
    ⟨⟨_, _, _, _, _, _⟩, rfl, rfl, rfl, rfl, rfl, rfl⟩, List.forall_mem_nil _⟩

/-- Behind a rule that makes two output tracks of a codec, a rule that drops the codec is inert,
though it matches a track. -/
theorem synthesize_shadowed_aac :
    let after : List Rule := [{ criteria := { codecs := .all }, operations := [.copy {}] }]
    validate (dropDocument "aac") = .ok ⟨[dropRule "aac"]⟩ ∧
      (∃ t ∈ mixedTracks, t.meets (dropRule "aac").criteria = .ok true) ∧
      (∀ t ∈ mixedTracks, ∃ f, t.Shows f) ∧
      (∀ t ∈ mixedTracks, t.meets (dropRule "aac").criteria = .ok true →
        ∃ rule ∈ mixedRules.rules, t.meets rule.criteria = .ok true) ∧
      (dropRule "aac").Writable ∧
      Plan.unmarked <$> synthesize mixedTracks
          ⟨mixedRules.rules ++ [dropRule "aac"] ++ after⟩ [] =
        Plan.unmarked <$> synthesize mixedTracks ⟨mixedRules.rules ++ after⟩ [] := by
  intro after
  have hvalid : validate (dropDocument "aac") = .ok ⟨[dropRule "aac"]⟩ := by decide +kernel
  have hmatches : ∃ t ∈ mixedTracks, t.meets (dropRule "aac").criteria = .ok true := by
    decide +kernel
  have hcovered : ∀ t ∈ mixedTracks, t.meets (dropRule "aac").criteria = .ok true →
      ∃ rule ∈ mixedRules.rules, t.meets rule.criteria = .ok true := by decide +kernel
  have hwritable : (dropRule "aac").Writable := List.forall_mem_nil _
  have hsame := (synthesize_shadowed hvalid List.mem_cons_self mixedTracks_shows hcovered after
    []).1 (.inl hwritable)
  exact ⟨hvalid, hmatches, mixedTracks_shows, hcovered, hwritable, hsame⟩

/-- A document with one rule, which transcodes the tracks of a codec to AC3 with a number of
channels. -/
def downmixDocument (codec : String) (channels : Int) : Value :=
  .list [.map [("match", .map [("codecs", .list [.text codec])]),
    ("operations", .list [.map [("transcode",
      .map [("codec", .text "ac3"), ("channels", .int channels)])]])]]

/-- That rule. -/
def downmixRule (codec : String) (channels : Int) : Rule :=
  { criteria := { codecs := .anyOf [codec] },
    operations := [.transcode { codec := "ac3", channels := some channels }] }

/-- A rule that asks for a number of channels with 4301 digits matches no track but one that a rule
in front of it matches; without it there is a plan, and with it there is none. -/
theorem synthesize_shadowed_unwritable :
    let long := downmixRule "aac" (10 ^ 4300)
    validate (downmixDocument "aac" (10 ^ 4300)) = .ok ⟨[long]⟩ ∧
      (∀ t ∈ mixedTracks, ∃ f, t.Shows f) ∧
      (∀ t ∈ mixedTracks, t.meets long.criteria = .ok true →
        ∃ rule ∈ mixedRules.rules, t.meets rule.criteria = .ok true) ∧
      (∃ plan, (synthesize mixedTracks ⟨mixedRules.rules ++ []⟩ []).outcome = .ok plan) ∧
      Faults (synthesize mixedTracks ⟨mixedRules.rules ++ [long] ++ []⟩ []).outcome := by
  intro long
  have hcovered : ∀ t ∈ mixedTracks, t.meets (dropRule "aac").criteria = .ok true →
      ∃ rule ∈ mixedRules.rules, t.meets rule.criteria = .ok true := by decide +kernel
  have hvalid : validate (downmixDocument "aac" (10 ^ 4300)) = .ok ⟨[long]⟩ := by
    decide +kernel
  have hlong : ¬ long.Writable := by
    intro hwritable
    have hunfit : Text.fits (10 ^ 4300) = false := Text.not_fits_pow (Nat.le_refl Text.digitLimit)
    have hfits : Text.fits (10 ^ 4300) = true := (hwritable _ List.mem_cons_self).1 _ rfl
    rw [hunfit] at hfits
    cases hfits
  obtain ⟨plan, hplan, hchanged, -⟩ := synthesize_mixed
  have hsame := findRule_shadowed_eq (validate_normal hvalid List.mem_cons_self) mixedTracks_shows
    hcovered []
  have hrest : (synthesize mixedTracks ⟨mixedRules.rules ++ []⟩ []).outcome = .ok plan := by
    rw [List.append_nil]
    exact hplan
  exact ⟨hvalid, mixedTracks_shows, hcovered, ⟨plan, hrest⟩,
    synthesize_faults_of_not_writable hsame hrest hchanged
      fun hwritable => hlong (RuleSet.writable_insert_iff.1 hwritable).1⟩

end AudioPlan
