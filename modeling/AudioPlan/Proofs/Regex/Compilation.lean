import AudioPlan.Proofs.Log.Success
import AudioPlan.Regex.Matcher

/-!
# Which expressions can be compiled

Whether an expression can be made ready for matching does not hang on the regard to case.  Reading
it does not know that switch at all, and of the other switches only the one for templates can make
compilation fail (`compileSequence_of_template`).
-/

namespace AudioPlan.Regex

theorem Flags.inside_template {f g : Flags} (h : f.template = g.template) (added removed : Flags) :
    (f.inside added removed).template = (g.inside added removed).template := by
  unfold inside
  split
  · simp [union, without, h]
  · simp [union, without, h]

mutual

/-- A node that compiles under some switches does so under others that agree on templates. -/
theorem Node.compile_of_template {widthOf : Nat → Nat × Nat} {f g : Flags}
    (h : f.template = g.template) (node : Node) {p : Program}
    (hp : node.compile widthOf f = .ok p) : ∃ q, node.compile widthOf g = .ok q := by
  cases node with
  | code n => exact ⟨_, rfl⟩
  | notCode n => exact ⟨_, rfl⟩
  | any => exact ⟨_, rfl⟩
  | set negated items => exact ⟨_, rfl⟩
  | anchor a => exact ⟨_, rfl⟩
  | sameAs group => exact ⟨_, rfl⟩
  | group index added removed body =>
    rw [Node.compile] at hp
    obtain ⟨b, hb, -⟩ := bind_eq_ok.1 hp
    obtain ⟨c, hc⟩ := compileSequence_of_template (Flags.inside_template h added removed) body hb
    rw [Node.compile, hc]
    exact ⟨_, rfl⟩
  | atomic body =>
    rw [Node.compile] at hp
    obtain ⟨b, hb, -⟩ := bind_eq_ok.1 hp
    obtain ⟨c, hc⟩ := compileSequence_of_template h body hb
    rw [Node.compile, hc]
    exact ⟨_, rfl⟩
  | repeated greed least most body =>
    rw [Node.compile] at hp
    cases htemplate : f.template with
    | true =>
      rw [htemplate] at hp
      cases hp
    | false =>
      rw [htemplate] at hp
      obtain ⟨b, hb, -⟩ := bind_eq_ok.1 hp
      obtain ⟨c, hc⟩ := compileSequence_of_template h body hb
      rw [Node.compile, hc, ← h, htemplate]
      exact ⟨_, rfl⟩
  | branch alternatives =>
    rw [Node.compile] at hp
    obtain ⟨c, hc⟩ := compileBranch_of_template h alternatives hp
    exact ⟨c, by rw [Node.compile, hc]⟩
  | look behind negative body =>
    rw [Node.compile] at hp
    cases behind with
    | true =>
      obtain ⟨back, hback, hp⟩ := bind_eq_ok.1 hp
      obtain ⟨b, hb, -⟩ := bind_eq_ok.1 hp
      obtain ⟨c, hc⟩ := compileSequence_of_template h body hb
      rw [Node.compile, if_pos rfl, hback, hc]
      exact ⟨_, rfl⟩
    | false =>
      obtain ⟨_, -, hp⟩ := bind_eq_ok.1 hp
      obtain ⟨b, hb, -⟩ := bind_eq_ok.1 hp
      obtain ⟨c, hc⟩ := compileSequence_of_template h body hb
      rw [Node.compile, hc]
      exact ⟨_, rfl⟩
  | ifGroup group present absent =>
    rw [Node.compile] at hp
    obtain ⟨b, hb, hp⟩ := bind_eq_ok.1 hp
    obtain ⟨b', hb', -⟩ := bind_eq_ok.1 hp
    obtain ⟨c, hc⟩ := compileSequence_of_template h present hb
    obtain ⟨c', hc'⟩ := compileSequence_of_template h absent hb'
    rw [Node.compile, hc, hc']
    exact ⟨_, rfl⟩

theorem compileSequence_of_template {widthOf : Nat → Nat × Nat} {f g : Flags}
    (h : f.template = g.template) (nodes : List Node) {p : Program}
    (hp : compileSequence widthOf f nodes = .ok p) :
    ∃ q, compileSequence widthOf g nodes = .ok q := by
  cases nodes with
  | nil => exact ⟨_, rfl⟩
  | cons node rest =>
    rw [compileSequence] at hp
    obtain ⟨b, hb, hp⟩ := bind_eq_ok.1 hp
    obtain ⟨b', hb', -⟩ := bind_eq_ok.1 hp
    obtain ⟨c, hc⟩ := Node.compile_of_template h node hb
    obtain ⟨c', hc'⟩ := compileSequence_of_template h rest hb'
    rw [compileSequence, hc, hc']
    exact ⟨_, rfl⟩

theorem compileBranch_of_template {widthOf : Nat → Nat × Nat} {f g : Flags}
    (h : f.template = g.template) (alternatives : List (List Node)) {p : Program}
    (hp : compileBranch widthOf f alternatives = .ok p) :
    ∃ q, compileBranch widthOf g alternatives = .ok q := by
  cases alternatives with
  | nil => exact ⟨_, rfl⟩
  | cons first rest =>
    rw [compileBranch] at hp
    obtain ⟨b, hb, hp⟩ := bind_eq_ok.1 hp
    obtain ⟨b', hb', -⟩ := bind_eq_ok.1 hp
    obtain ⟨c, hc⟩ := compileSequence_of_template h first hb
    obtain ⟨c', hc'⟩ := compileBranch_of_template h rest hb'
    rw [compileBranch, hc, hc']
    exact ⟨_, rfl⟩

end

/-- An expression that can be compiled with regard to case can be compiled without it, and the other
way round. -/
theorem exists_compile_of_compile {expression : String} {ignoreCase : Bool} {r : Regex}
    (hr : compile expression ignoreCase = .ok r) (other : Bool) :
    ∃ q, compile expression other = .ok q := by
  obtain ⟨e, he, hr⟩ := bind_eq_ok.1 hr
  obtain ⟨p, hp, -⟩ := bind_eq_ok.1 hr
  have htemplate : (e.flags.union { ignoreCase }).template =
      (e.flags.union { ignoreCase := other }).template := rfl
  obtain ⟨q, hq⟩ := compileSequence_of_template htemplate e.nodes hp
  rw [compile, he]
  simp only [bind, Except.bind, hq]
  exact ⟨_, rfl⟩

end AudioPlan.Regex
