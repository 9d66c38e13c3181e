/-!
# Regular expressions as trees

The syntax of regular expressions after reading: items that stand for one character, anchors,
groups, repetitions, alternatives, looks ahead and behind, references to groups and conditions on
them.  A sequence is a list of nodes.  The file also computes the least and the greatest number of
characters that a sequence can match, which decides whether it may be looked for behind a position.
-/

namespace AudioPlan.Regex

/-- The switches that an expression can set for itself or for a part. -/
structure Flags where
  ignoreCase : Bool := false
  multiLine : Bool := false
  dotAll : Bool := false
  verbose : Bool := false
  ascii : Bool := false
  unicode : Bool := false
  template : Bool := false
  deriving Repr, DecidableEq

namespace Flags

/-- The switches set in either of two. -/
def union (a b : Flags) : Flags where
  ignoreCase := a.ignoreCase || b.ignoreCase
  multiLine := a.multiLine || b.multiLine
  dotAll := a.dotAll || b.dotAll
  verbose := a.verbose || b.verbose
  ascii := a.ascii || b.ascii
  unicode := a.unicode || b.unicode
  template := a.template || b.template

/-- The switches set in the first and not in the second. -/
def without (a b : Flags) : Flags where
  ignoreCase := a.ignoreCase && !b.ignoreCase
  multiLine := a.multiLine && !b.multiLine
  dotAll := a.dotAll && !b.dotAll
  verbose := a.verbose && !b.verbose
  ascii := a.ascii && !b.ascii
  unicode := a.unicode && !b.unicode
  template := a.template && !b.template

/-- Whether no switch is set. -/
def isEmpty (a : Flags) : Bool :=
  a == {}

/-- Whether two have a switch in common. -/
def meets (a b : Flags) : Bool :=
  (a.ignoreCase && b.ignoreCase) || (a.multiLine && b.multiLine) || (a.dotAll && b.dotAll) ||
    (a.verbose && b.verbose) || (a.ascii && b.ascii) || (a.unicode && b.unicode) ||
    (a.template && b.template)

/-- The switches inside a part that adds some and removes others.  A part that names an alphabet
puts it in place of the one around it. -/
def inside (outer added removed : Flags) : Flags :=
  let outer := if added.ascii || added.unicode then { outer with ascii := false, unicode := false }
    else outer
  (outer.union added).without removed

end Flags

/-- The named classes of characters. -/
inductive CharClass where
  | digit
  | space
  | word
  deriving Repr, DecidableEq

/-- An item of a set of characters, by code points. -/
inductive SetItem where
  | code (n : Nat)
  | range (first last : Nat)
  | inClass (c : CharClass)
  | notInClass (c : CharClass)
  deriving Repr, DecidableEq

/-- A condition on a position. -/
inductive Anchor where
  | lineStart
  | lineEnd
  | textStart
  | textEnd
  | boundary
  | notBoundary
  deriving Repr, DecidableEq

/-- How a repetition chooses its number of rounds. -/
inductive Greed where
  | greedy
  | lazy
  | possessive
  deriving Repr, DecidableEq

/-- One item of a sequence. -/
inductive Node where
  | code (n : Nat)
  | notCode (n : Nat)
  | any
  | set (negated : Bool) (items : List SetItem)
  | anchor (a : Anchor)
  | group (index : Option Nat) (added removed : Flags) (body : List Node)
  | atomic (body : List Node)
  | repeated (greed : Greed) (least : Nat) (most : Option Nat) (body : List Node)
  | branch (alternatives : List (List Node))
  | look (behind negative : Bool) (body : List Node)
  | sameAs (group : Nat)
  | ifGroup (group : Nat) (present : List Node) (absent : List Node)
  deriving Repr, Inhabited

/-- Widths are not counted beyond this number. -/
def greatestWidth : Nat := 0x10000000000000000

/-- A pair of widths cut to the greatest one. -/
def cutWidth (w : Nat × Nat) : Nat × Nat :=
  (min w.1 greatestWidth, min w.2 greatestWidth)

mutual

/-- The least and the greatest width of a node, given the widths of the groups before it. -/
def Node.width (groups : Nat → Nat × Nat) : Node → Nat × Nat
  | .code _ | .notCode _ | .any | .set _ _ => (1, 1)
  | .anchor _ | .look _ _ _ => (0, 0)
  | .group _ _ _ body | .atomic body => sequenceWidth groups body
  | .repeated _ least most body =>
    let (lo, hi) := sequenceWidth groups body
    match most with
    | some most => (lo * least, hi * most)
    | none => (lo * least, if hi = 0 then 0 else greatestWidth)
  | .branch alternatives => branchWidth groups alternatives
  | .sameAs group => groups group
  | .ifGroup _ present absent =>
    let (lo, hi) := sequenceWidth groups present
    let (lo', hi') := sequenceWidth groups absent
    (min lo lo', max hi hi')

/-- The least and the greatest width of a sequence. -/
def sequenceWidth (groups : Nat → Nat × Nat) : List Node → Nat × Nat
  | [] => (0, 0)
  | node :: rest =>
    let (lo, hi) := node.width groups
    let (lo', hi') := sequenceWidth groups rest
    cutWidth (lo + lo', hi + hi')

/-- The least and the greatest width among alternatives. -/
def branchWidth (groups : Nat → Nat × Nat) : List (List Node) → Nat × Nat
  | [] => (greatestWidth, 0)
  | first :: rest =>
    let (lo, hi) := sequenceWidth groups first
    let (lo', hi') := branchWidth groups rest
    (min lo lo', max hi hi')

end

end AudioPlan.Regex
