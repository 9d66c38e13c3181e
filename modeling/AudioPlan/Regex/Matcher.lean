import AudioPlan.Regex.Program

/-!
# Matching regular expressions

Matching by backtracking.  A match goes on with a continuation, so that a choice can be taken back
when what follows it fails; repetitions count their rounds and stop at a round that matched nothing.

* `compile` makes an expression ready;
* `Regex.search` finds the first match in a text;
* `Regex.findAll` finds all matches from left to right, none starting inside another.
-/

namespace AudioPlan.Regex

/-- A position in a text, with the bounds of the groups matched on the way to it. -/
structure Position where
  /-- The characters before the position, nearest first. -/
  before : List Char
  after : List Char
  starts : List (Nat × Nat) := []
  ends : List (Nat × Nat) := []

namespace Position

/-- The number of characters before the position. -/
def offset (p : Position) : Nat :=
  p.before.length

/-- The position behind the next character. -/
def forward? (p : Position) : Option Position :=
  match p.after with
  | c :: rest => some { p with before := c :: p.before, after := rest }
  | [] => none

/-- The position some characters back. -/
def back? : Nat → Position → Option Position
  | 0, p => some p
  | n + 1, p =>
    match p.before with
    | c :: rest => back? n { p with before := rest, after := c :: p.after }
    | [] => none

/-- The bounds of a group that has been matched. -/
def bounds? (p : Position) (group : Nat) : Option (Nat × Nat) := do
  let first ← p.starts.lookup group
  let last ← p.ends.lookup group
  if first ≤ last then some (first, last) else none

/-- The characters between two offsets. -/
def slice (p : Position) (first last : Nat) : List Char :=
  ((p.before.reverse ++ p.after).drop first).take (last - first)

/-- Whether exactly one side of the position is part of a word. -/
def wordSides (p : Position) (ascii : Bool) : Bool :=
  let isWord (c : Option Char) : Bool := c.any fun c => CharClass.word.holds ascii c.toNat
  isWord p.before.head? != isWord p.after.head?

/-- Whether an anchor holds.  In an empty text no place is a boundary, nor is one none. -/
def holds (p : Position) (flags : Flags) : Anchor → Bool
  | .textStart => p.before.isEmpty
  | .textEnd => p.after.isEmpty
  | .lineStart => p.before.isEmpty || (flags.multiLine && p.before.head? == some '\n')
  | .lineEnd =>
    p.after.isEmpty || p.after == ['\n'] || (flags.multiLine && p.after.head? == some '\n')
  | .boundary => !(p.before.isEmpty && p.after.isEmpty) && p.wordSides flags.ascii
  | .notBoundary => !(p.before.isEmpty && p.after.isEmpty) && !p.wordSides flags.ascii

/-- The position behind the given characters, if they follow. -/
def follow? (mode : CaseMode) : List Char → Position → Option Position
  | [], p => some p
  | c :: rest, p =>
    match p.after with
    | d :: _ =>
      if mode.lower c.toNat == mode.lower d.toNat then p.forward?.bind (follow? mode rest) else none
    | [] => none

end Position

/-- What goes on after a match. -/
abbrev Next := Position → Option Position

/-- A way of matching: it goes on with what follows. -/
abbrev Matcher := Next → Position → Option Position

/-- Whether another round is allowed. -/
def mayRepeat (most : Option Nat) (count : Nat) : Bool :=
  match most with
  | some most => count < most
  | none => true

/-- Rounds of a greedy repetition: as many as possible, then what follows. -/
def greedyRounds (body : Matcher) (least : Nat) (most : Option Nat) (next : Next) :
    (fuel count : Nat) → (last : Option Nat) → Position → Option Position
  | 0, _, _, p => next p
  | fuel + 1, count, last, p =>
    if count < least then body (greedyRounds body least most next fuel (count + 1) last) p
    else if mayRepeat most count && last != some p.offset then
      match body (greedyRounds body least most next fuel (count + 1) (some p.offset)) p with
      | some q => some q
      | none => next p
    else next p

/-- Rounds of a lazy repetition: what follows, then one more round. -/
def lazyRounds (body : Matcher) (least : Nat) (most : Option Nat) (next : Next) :
    (fuel count : Nat) → (last : Option Nat) → Position → Option Position
  | 0, _, _, p => next p
  | fuel + 1, count, last, p =>
    if count < least then body (lazyRounds body least most next fuel (count + 1) last) p
    else
      match next p with
      | some q => some q
      | none =>
        if mayRepeat most count && last != some p.offset then
          body (lazyRounds body least most next fuel (count + 1) (some p.offset)) p
        else none

/-- Rounds of a possessive repetition, which are never taken back. -/
def possessiveRounds (body : Matcher) (least : Nat) (most : Option Nat) :
    (fuel count : Nat) → (last : Option Nat) → Position → Option Position
  | 0, _, _, p => some p
  | fuel + 1, count, last, p =>
    if count < least then
      (body some p).bind (possessiveRounds body least most fuel (count + 1) last)
    else if mayRepeat most count && last != some p.offset then
      match body some p with
      | some q => possessiveRounds body least most fuel (count + 1) (some p.offset) q
      | none => some p
    else some p

/-- Rounds that any repetition can make from a position: the least number, one for each character
left, and one that matches nothing. -/
def roundBound (least : Nat) (p : Position) : Nat :=
  least + p.after.length + 2

/-- Matches a program and goes on. -/
def Program.run : Program → Matcher
  | .nothing => fun next p => next p
  | .one accepts => fun next p =>
    match p.after with
    | c :: _ => if accepts c then p.forward?.bind next else none
    | [] => none
  | .anchor a flags => fun next p => if p.holds flags a then next p else none
  | .both first second => fun next p => first.run (second.run next) p
  | .either first second => fun next p =>
    match first.run next p with
    | some q => some q
    | none => second.run next p
  | .fail => fun _ _ => none
  | .capture group body => fun next p =>
    body.run (fun q => next { q with ends := put group q.offset q.ends })
      { p with starts := put group p.offset p.starts }
  | .atomic body => fun next p => (body.run some p).bind next
  | .repeated greed least most body => fun next p =>
    match greed with
    | .greedy => greedyRounds body.run least most next (roundBound least p) 0 none p
    | .lazy => lazyRounds body.run least most next (roundBound least p) 0 none p
    | .possessive =>
      (possessiveRounds body.run least most (roundBound least p) 0 none p).bind next
  | .look back negative body => fun next p =>
    let found := (Position.back? (back.getD 0) p).bind (body.run some)
    match found, negative with
    | some q, false => next { p with starts := q.starts, ends := q.ends }
    | none, true => next p
    | _, _ => none
  | .sameAs group mode => fun next p =>
    match p.bounds? group with
    | some (first, last) => (Position.follow? mode (p.slice first last) p).bind next
    | none => none
  | .ifGroup group present absent => fun next p =>
    if (p.bounds? group).isSome then present.run next p else absent.run next p
where
  /-- Gives a group a bound. -/
  put (group n : Nat) (bounds : List (Nat × Nat)) : List (Nat × Nat) :=
    (group, n) :: bounds.filter fun entry => entry.1 != group

end Regex

/-- A regular expression ready for use. -/
structure Regex where
  program : Regex.Program
  /-- Whether a match may start with a character. -/
  mayStart : Char → Bool
  /-- The number of groups. -/
  groups : Nat

namespace Regex

/-- Makes an expression ready, with or without regard to case.  The expression can ask to have no
regard to case by itself as well. -/
def compile (expression : String) (ignoreCase : Bool) : Except Refusal Regex := do
  let e ← Expression.read expression.toList
  let flags := e.flags.union { ignoreCase }
  return {
    program := ← compileSequence e.widthOf flags e.nodes
    mayStart := fun c => sequenceMayStart flags flags c e.nodes
    groups := e.groups }

/-- A match: its bounds and the text of each group, none where a group took no part. -/
structure Match where
  first : Nat
  last : Nat
  groups : List (Option String)
  deriving Repr, DecidableEq

/-- The match that starts at a position, if there is one.  `advancing` refuses an empty one. -/
def matchAt (r : Regex) (advancing : Bool) (p : Position) : Option Match := do
  let q ← r.program.run (fun q => if advancing && q.offset == p.offset then none else some q) p
  let group (n : Nat) : Option String :=
    (q.bounds? (n + 1)).map fun (first, last) => String.ofList (q.slice first last)
  return { first := p.offset, last := q.offset, groups := (List.range r.groups).map group }

/-- The first match that starts at a position or behind it.  `advancing` refuses an empty match at
the position itself. -/
def searchFrom (r : Regex) (advancing : Bool) (before : List Char) : List Char → Option Match
  | [] => matchAt r advancing { before := before, after := [] }
  | c :: rest =>
    let here :=
      if r.mayStart c then matchAt r advancing { before := before, after := c :: rest } else none
    match here with
    | some m => some m
    | none => searchFrom r false (c :: before) rest

/-- The first match in a text. -/
def search (r : Regex) (text : String) : Option Match :=
  searchFrom r false [] text.toList

/-- The matches from an offset on.  Behind an empty match the next one is not empty or starts
further on, so their number is bounded. -/
def matchesFrom (r : Regex) (cs : List Char) :
    (bound offset : Nat) → (advancing : Bool) → List Match
  | 0, _, _ => []
  | bound + 1, offset, advancing =>
    match searchFrom r advancing (cs.take offset).reverse (cs.drop offset) with
    | some m => m :: matchesFrom r cs bound m.last (m.first == m.last)
    | none => []

/-- All matches in a text, from left to right. -/
def findAll (r : Regex) (text : String) : List Match :=
  matchesFrom r text.toList (2 * text.toList.length + 2) 0 false

end Regex

end AudioPlan
