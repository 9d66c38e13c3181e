/-!
# Similar words

How much two words have in common: the longest run of characters that is in both, and what is in
common on either side of it.  Words that have most of their characters in common are similar, which
serves to suggest a word for one that is not known.

* `commonLength` counts the characters in common;
* `similarTo` picks the most similar of some words.
-/

namespace AudioPlan.Text

/-- The length of what two texts start with in common. -/
def commonStart [BEq α] : List α → List α → Nat
  | a :: as, b :: bs => if a == b then commonStart as bs + 1 else 0
  | _, _ => 0

/-- A run of items that is in two lists. -/
structure CommonRun where
  first : Nat
  second : Nat
  length : Nat
  deriving Repr, DecidableEq

/-- The longer of two runs, the first one if none is longer. -/
def CommonRun.longer (x y : CommonRun) : CommonRun :=
  if x.length < y.length then y else x

/-- The longest run that starts where the first list does. -/
def runHere [BEq α] (i : Nat) (as : List α) : (j : Nat) → List α → CommonRun
  | j, [] => ⟨i, j, 0⟩
  | j, b :: bs => CommonRun.longer ⟨i, j, commonStart as (b :: bs)⟩ (runHere i as (j + 1) bs)

/-- The longest run of two lists, the first of them in the first list and then in the second. -/
def longestRun [BEq α] (bs : List α) : (i : Nat) → List α → CommonRun
  | i, [] => ⟨i, 0, 0⟩
  | i, a :: as => (runHere i (a :: as) 0 bs).longer (longestRun bs (i + 1) as)

/-- The number of items in common; the bound is the length of the first list. -/
def commonLengthWithin [BEq α] : (bound : Nat) → List α → List α → Nat
  | 0, _, _ => 0
  | bound + 1, as, bs =>
    let run := longestRun bs 0 as
    if run.length = 0 then 0
    else
      commonLengthWithin bound (as.take run.first) (bs.take run.second) + run.length +
        commonLengthWithin bound (as.drop (run.first + run.length))
          (bs.drop (run.second + run.length))

/-- The number of items that two lists have in common. -/
def commonLength [BEq α] (as bs : List α) : Nat :=
  commonLengthWithin as.length as bs

/-- Whether numbers in common out of the sum of two lengths make the words similar. -/
def areSimilar (common total : Nat) : Bool :=
  3 * total ≤ 10 * common

/-- A known word with what it has in common with another. -/
structure Likeness where
  word : String
  common : Nat
  total : Nat
  deriving Repr

/-- How a known word is like another. -/
def Likeness.of (word known : String) : Likeness :=
  { word := known
    common := commonLength known.toList word.toList
    total := known.length + word.length }

/-- Whether a word comes before another one when the more similar ones come first. -/
def Likeness.before (x y : Likeness) : Bool :=
  if x.common * y.total = y.common * x.total then y.word ≤ x.word
  else y.common * x.total ≤ x.common * y.total

/-- The known words that are similar to a word, at most three, in alphabetical order. -/
def similarTo (word : String) (known : List String) : List String :=
  let near := known.filter fun k => areSimilar (min k.length word.length) (k.length + word.length)
  let similar := (near.map (Likeness.of word)).filter fun x => areSimilar x.common x.total
  (((similar.mergeSort Likeness.before).take 3).map Likeness.word).mergeSort fun x y => x ≤ y

end AudioPlan.Text
