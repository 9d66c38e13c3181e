import AudioPlan.Proofs.Log.Success

/-!
# Steps that fail

A computation of two steps fails where the first step does, or where the second does on its result.
Where the second step fails no matter what the first has found, the two can be told apart
(`faults_bind_iff_or`), which is how the failures of a `do` block are listed one by one.
-/

namespace AudioPlan

variable {ε α β : Type}

/-- A computation fails. -/
def Faults (x : Except ε α) : Prop :=
  ∃ e, x = .error e

@[simp] theorem faults_error (e : ε) : Faults (.error e : Except ε α) :=
  ⟨e, rfl⟩

@[simp] theorem not_faults_ok (a : α) : ¬ Faults (.ok a : Except ε α) :=
  fun ⟨_, h⟩ => nomatch h

@[simp] theorem not_faults_pure (a : α) : ¬ Faults (pure a : Except ε α) :=
  not_faults_ok a

theorem not_faults_iff {x : Except ε α} : ¬ Faults x ↔ ∃ a, x = .ok a := by
  cases x with
  | error e => simp
  | ok a => simp

theorem faults_bind_iff {x : Except ε α} {f : α → Except ε β} :
    Faults (x >>= f) ↔ Faults x ∨ ∃ a, x = .ok a ∧ Faults (f a) := by
  cases x with
  | error e => simp [bind, Except.bind]
  | ok a => simp [bind, Except.bind]

/-- Whether the second step fails may not depend on what the first has found. -/
theorem faults_bind_iff_or {x : Except ε α} {f : α → Except ε β} {P : Prop}
    (h : ∀ a, x = .ok a → (Faults (f a) ↔ P)) : Faults (x >>= f) ↔ Faults x ∨ P := by
  cases x with
  | error e => simp [bind, Except.bind]
  | ok a =>
    rw [or_iff_right (not_faults_ok a)]
    exact h a rfl

/-- The second step may never fail. -/
theorem faults_bind_iff_left {x : Except ε α} {f : α → Except ε β} (h : ∀ a, ¬ Faults (f a)) :
    Faults (x >>= f) ↔ Faults x := by
  rw [faults_bind_iff_or fun a _ => iff_false_intro (h a), or_false]

/-- The first step may succeed. -/
theorem faults_bind_iff_right {x : Except ε α} {f : α → Except ε β} {P : Prop} (hx : ¬ Faults x)
    (h : ∀ a, x = .ok a → (Faults (f a) ↔ P)) : Faults (x >>= f) ↔ P := by
  rw [faults_bind_iff_or h, or_iff_right hx]

theorem faults_map_iff {x : Except ε α} {f : α → β} : Faults (f <$> x) ↔ Faults x := by
  cases x with
  | error e => simp [Functor.map, Except.map]
  | ok a => simp [Functor.map, Except.map]

end AudioPlan
