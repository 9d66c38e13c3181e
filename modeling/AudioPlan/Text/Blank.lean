import AudioPlan.Text.Range

/-!
# Blanks

The white space of every script, the line ends and the four information separators, and the removal
of blanks from the ends of a text.  Around a number the information separators are no blanks.
-/

namespace AudioPlan.Text

/-- The blanks: white space of every script, line ends and the information separators. -/
def blankRanges : List (Nat × Nat) :=
  [(0x9, 0xd), (0x1c, 0x20), (0x85, 0x85), (0xa0, 0xa0), (0x1680, 0x1680), (0x2000, 0x200a),
   (0x2028, 0x2029), (0x202f, 0x202f), (0x205f, 0x205f), (0x3000, 0x3000)]

/-- Whether a character is blank. -/
def isBlank (c : Char) : Bool :=
  inRanges blankRanges c.toNat

/-- Whether a character is one of the four information separators. -/
def isSeparator (c : Char) : Bool :=
  '\x1c' ≤ c && c ≤ '\x1f'

/-- The characters without the blanks in front. -/
def trimStart (cs : List Char) : List Char :=
  cs.dropWhile isBlank

/-- The characters without the blanks at the end. -/
def trimEnd (cs : List Char) : List Char :=
  (cs.reverse.dropWhile isBlank).reverse

/-- The characters without the blanks at either end. -/
def trim (cs : List Char) : List Char :=
  trimEnd (trimStart cs)

/-- Whether a character may stand around a number. -/
def surroundsNumber (c : Char) : Bool :=
  isBlank c && !isSeparator c

/-- The characters without what may stand around a number. -/
def trimNumber (cs : List Char) : List Char :=
  ((cs.dropWhile surroundsNumber).reverse.dropWhile surroundsNumber).reverse

end AudioPlan.Text
