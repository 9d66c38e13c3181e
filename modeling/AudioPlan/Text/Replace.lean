/-!
# Searching and replacing text

Whether characters occur in others, what follows their first occurrence, and the replacement of
every occurrence from left to right.
-/

namespace AudioPlan.Text

/-- The characters behind others, if they start with them. -/
def dropFront? : List Char → List Char → Option (List Char)
  | [], cs => some cs
  | _ :: _, [] => none
  | p :: ps, c :: cs => if p = c then dropFront? ps cs else none

/-- Whether characters occur in others. -/
def occursIn (needle : List Char) : List Char → Bool
  | [] => needle.isEmpty
  | c :: cs => (dropFront? needle (c :: cs)).isSome || occursIn needle cs

/-- Every occurrence of `old` from left to right replaced by `new`; `skip` characters belong to the
last occurrence. -/
def replaceFrom (old new : List Char) : (skip : Nat) → List Char → List Char
  | _, [] => []
  | skip + 1, _ :: cs => replaceFrom old new skip cs
  | 0, c :: cs =>
    match dropFront? old (c :: cs) with
    | some _ => new ++ replaceFrom old new (old.length - 1) cs
    | none => c :: replaceFrom old new 0 cs

/-- Every occurrence of a text that is not empty, from left to right, replaced by another. -/
def replaceAll (old new : List Char) (cs : List Char) : List Char :=
  replaceFrom old new 0 cs

/-- The parts of characters between occurrences of a separator. -/
def splitOn (separator : Char) : List Char → List (List Char)
  | [] => [[]]
  | c :: cs =>
    if c = separator then [] :: splitOn separator cs
    else
      match splitOn separator cs with
      | first :: rest => (c :: first) :: rest
      | [] => [[c]]

end AudioPlan.Text
