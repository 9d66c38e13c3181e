import AudioPlan.Rule.Issue
import AudioPlan.Value.Basic

/-!
# Checks that report everything

The result of checking a part of a document: what was read, or the problems found.  Checks of
several parts are combined without stopping at the first problem, and the problems stand in the
order of the checks.
-/

namespace AudioPlan

/-- What a check yields: what was read, or at least one problem. -/
inductive Checked (α : Type) where
  | good (a : α)
  | bad (first : Issue) (rest : List Issue)
  deriving Repr

namespace Checked

variable {α β γ : Type}

/-- The problems found; none if the check succeeded. -/
def issues : Checked α → List Issue
  | .good _ => []
  | .bad first rest => first :: rest

/-- A problem at the place that is being checked. -/
def fail (cause : Cause) : Checked α :=
  .bad ⟨[], cause⟩ []

/-- What was read, put into another form. -/
def map (f : α → β) : Checked α → Checked β
  | .good a => .good (f a)
  | .bad first rest => .bad first rest

/-- Two checks, with the problems of both. -/
def both (f : α → β → γ) : Checked α → Checked β → Checked γ
  | .good a, .good b => .good (f a b)
  | .good _, .bad first rest => .bad first rest
  | .bad first rest, .good _ => .bad first rest
  | .bad first rest, .bad other others => .bad first (rest ++ other :: others)

/-- Two checks of which the first yields the result. -/
def alongside (x : Checked α) (y : Checked Unit) : Checked α :=
  both (fun a _ => a) x y

/-- A check one step further down. -/
def under (step : Step) : Checked α → Checked α
  | .good a => .good a
  | .bad first rest => .bad (first.under step) (rest.map (Issue.under step))

/-- The checks of all items of a list, each under its position. -/
def items (check : Value → Checked α) : (position : Nat) → List Value → Checked (List α)
  | _, [] => .good []
  | position, v :: rest =>
    both (· :: ·) ((check v).under (.item position)) (items check (position + 1) rest)

theorem issues_both (f : α → β → γ) (x : Checked α) (y : Checked β) :
    (both f x y).issues = x.issues ++ y.issues := by
  cases x <;> cases y <;> simp [both, issues]

end Checked

/-! ## Objects -/

/-- The entries of a mapping, with keys as values. -/
def Value.fields? : Value → Option (List (Value × Value))
  | .map entries => some (entries.map fun (key, v) => (.text key, v))
  | .keyed entries => some entries
  | _ => none

/-- The value under the key with a name. -/
def fieldNamed (name : String) : List (Value × Value) → Option Value
  | [] => none
  | (.text key, v) :: rest => if key = name then some v else fieldNamed name rest
  | _ :: rest => fieldNamed name rest

/-- Integers of machine size are those that 64 bits with a sign can hold. -/
def isMachineSized (n : Int) : Bool :=
  -0x8000000000000000 ≤ n && n < 0x8000000000000000

/-- The step to the value under a key.  Keys that are integers of machine size and truth values
count as positions. -/
def keyStep : Value → Step
  | .text key => .field key
  | .bool b => .item b.toNat
  | .int n => if isMachineSized n then .item n else .field (toString n)
  | key => .field key.shown

/-- The problems of entries whose keys are not known. -/
def strayIssues (known : List String) (entries : List (Value × Value)) : List Issue :=
  entries.filterMap fun (key, _) =>
    match key with
    | .text name => if name ∈ known then none else some ⟨[.field name], .unknownField⟩
    | key => some ⟨[keyStep key], .keyNotText⟩

/-- The check that all keys are known. -/
def strays (known : List String) (entries : List (Value × Value)) : Checked Unit :=
  match strayIssues known entries with
  | [] => .good ()
  | first :: rest => .bad first rest

/-- The check of an object: that of its fields, then that of its keys. -/
def object {α : Type} (part : Part) (known : List String)
    (fields : List (Value × Value) → Checked α) (v : Value) : Checked α :=
  match v.fields? with
  | none => .fail (.notObject part)
  | some entries => (fields entries).alongside (strays known entries)

/-- The check of a field that must be there. -/
def required {α : Type} (name : String) (check : Value → Checked α)
    (entries : List (Value × Value)) : Checked α :=
  match fieldNamed name entries with
  | some v => (check v).under (.field name)
  | none => (Checked.fail .missing).under (.field name)

/-- The check of a field that may be left out, in which case it has a default. -/
def optional {α : Type} (name : String) (default : α) (check : Value → Checked α)
    (entries : List (Value × Value)) : Checked α :=
  match fieldNamed name entries with
  | some v => (check v).under (.field name)
  | none => .good default

/-- A check that takes null for nothing. -/
def nullable {α : Type} (check : Value → Checked α) : Value → Checked (Option α)
  | .null => .good none
  | v => (check v).map some

end AudioPlan
