import AudioPlan.Text.Range
import AudioPlan.Text.Case.Table

/-!
# Letter case

Text in lower case, in upper case, and in the form in which two texts are compared without regard to
case.  A capital sigma that ends a word becomes the final small sigma; every other character is
mapped by itself.
-/

namespace AudioPlan.Text

namespace Case

/-- Whether the run maps the code point. -/
def Run.covers (r : Run) (n : Nat) : Bool :=
  r.first ≤ n && n ≤ r.last && (n - r.first) % r.step == 0

/-- The code point that the runs map a code point to, or itself. -/
def shifted : List Run → Nat → Nat
  | [], n => n
  | r :: rest, n => if r.covers n then (n + r.shift).toNat else shifted rest n

/-- The characters that stand for one character under a pair of tables. -/
def mapped (several : List (Nat × List Nat)) (runs : List Run) (c : Char) : List Char :=
  match several.lookup c.toNat with
  | some codes => codes.map Char.ofNat
  | none => [Char.ofNat (shifted runs c.toNat)]

/-- The lower case of one character by itself. -/
def lowerChar (c : Char) : List Char :=
  mapped lowerSeveral lowerRuns c

/-- The upper case of one character. -/
def upperChar (c : Char) : List Char :=
  mapped upperSeveral upperRuns c

/-- What stands for one character in a comparison without case. -/
def foldChar (c : Char) : List Char :=
  mapped foldSeveral foldRuns c

/-- The capital sigma, the only letter whose lower case hangs on its surroundings. -/
def capitalSigma : Char := '\u03a3'

/-- Whether the nearest character that is not looked past is a letter with case. -/
def meetsLetter (cs : List Char) : Bool :=
  match cs.dropWhile fun c => inRanges ignorableRanges c.toNat with
  | [] => false
  | c :: _ => inRanges casedRanges c.toNat

/-- The small sigma for a capital one with `before` (nearest first) and `after` around it. -/
def smallSigma (before after : List Char) : Char :=
  if meetsLetter before && !meetsLetter after then '\u03c2' else '\u03c3'

/-- Lower case of the rest of a text, given what stands before it, nearest first. -/
def lowerFrom (before : List Char) : List Char → List Char
  | [] => []
  | c :: after =>
    (if c = capitalSigma then [smallSigma before after] else lowerChar c) ++
      lowerFrom (c :: before) after

end Case

/-- The characters in lower case. -/
def lower (cs : List Char) : List Char :=
  Case.lowerFrom [] cs

/-- The characters in upper case. -/
def upper (cs : List Char) : List Char :=
  cs.flatMap Case.upperChar

/-- The form in which characters are compared without regard to case. -/
def fold (cs : List Char) : List Char :=
  cs.flatMap Case.foldChar

/-- The text in lower case. -/
def lowerText (s : String) : String :=
  String.ofList (lower s.toList)

/-- The text in upper case. -/
def upperText (s : String) : String :=
  String.ofList (upper s.toList)

/-- The form of a text in which it is compared without regard to case. -/
def foldText (s : String) : String :=
  String.ofList (fold s.toList)

end AudioPlan.Text
