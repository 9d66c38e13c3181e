import AudioPlan.Text.CharacterName.Table
import AudioPlan.Text.Number
import AudioPlan.Text.Range
import AudioPlan.Text.Replace

/-!
# Character names

The names of Unicode 14 that a pattern may use for a character: those of the characters themselves,
and their aliases.  Most of them stand in tables.  The names of Hangul syllables are put together
from the names of their parts, and those of ideographs and some other characters end in the code
point.

* `namedCharacter?` finds the code point with a name.
-/

namespace AudioPlan.Text

/-! ## Names that are put together -/

/-- The code points of unified ideographs. -/
def ideographRanges : List (Nat × Nat) :=
  [(0x3400, 0x4dbf), (0x4e00, 0x9fff), (0x20000, 0x2a6df), (0x2a700, 0x2b738), (0x2b740, 0x2b81d),
   (0x2b820, 0x2cea1), (0x2ceb0, 0x2ebe0), (0x30000, 0x3134a)]

/-- What names start with that end in the code point, and the code points that have them. -/
def numberedNames : List (String × List (Nat × Nat)) :=
  [("CJK COMPATIBILITY IDEOGRAPH-", [(0xf900, 0xfa6d), (0xfa70, 0xfad9), (0x2f800, 0x2fa1d)]),
   ("KHITAN SMALL SCRIPT CHARACTER-", [(0x18b00, 0x18cd5)]),
   ("NUSHU CHARACTER-", [(0x1b170, 0x1b2fb)])]

/-- The names of the parts of Hangul syllables: in front, in the middle and at the end. -/
def syllableParts : List String × List String × List String :=
  (["G", "GG", "N", "D", "DD", "R", "M", "B", "BB", "S", "SS", "", "J", "JJ", "C", "K", "T", "P",
     "H"],
   ["A", "AE", "YA", "YAE", "EO", "E", "YEO", "YE", "O", "WA", "WAE", "OE", "YO", "U", "WEO", "WE",
     "WI", "YU", "EU", "YI", "I"],
   ["", "G", "GG", "GS", "N", "NJ", "NH", "D", "L", "LG", "LM", "LB", "LS", "LT", "LP", "LH", "M",
     "B", "BS", "S", "SS", "NG", "J", "C", "K", "T", "P", "H"])

/-- The number that capital hexadecimal digits denote, of which there are four or five. -/
def codeDigits? (cs : List Char) : Option Nat :=
  if (cs.length == 4 || cs.length == 5) && !cs.any Char.isLower then ofBase? 16 cs else none

/-- The unified ideograph with a name, in capital letters. -/
def ideograph? (name : List Char) : Option Nat := do
  let code ← codeDigits? (← dropFront? "CJK UNIFIED IDEOGRAPH-".toList name)
  if inRanges ideographRanges code then some code else none

/-- The character whose name ends in its code point, written with as few digits as possible. -/
def numbered? (name : List Char) : Option Nat :=
  numberedNames.findSome? fun (start, ranges) => do
    let digits ← dropFront? start.toList name
    let code ← codeDigits? digits
    if inRanges ranges code && (digits.length == 4 || 0x10000 ≤ code) then some code else none

/-- The Hangul syllable with a name, in capital letters. -/
def syllable? (name : List Char) : Option Nat := do
  let parts ← dropFront? "HANGUL SYLLABLE ".toList name
  let (leads, vowels, tails) := syllableParts
  leads.zipIdx.findSome? fun (lead, i) => do
    let behind ← dropFront? lead.toList parts
    vowels.zipIdx.findSome? fun (vowel, j) => do
      let last ← dropFront? vowel.toList behind
      let k ← tails.findIdx? fun part => part.toList = last
      return 0xac00 + (i * vowels.length + j) * tails.length + k

/-! ## Looking up -/

/-- The names of a table: for each one the number of shared words, and what follows. -/
def NameTable.entries (table : NameTable) : List (Nat × List Char) :=
  ((table.lines.flatMap String.toList).foldr (fun c (entry, later) =>
    if c.isLower then ([], (c.toNat - 'a'.toNat, entry) :: later) else (c :: entry, later))
    ([], [])).2

/-- The code point of a name, given as its words, among the names from some code point on. -/
def findName (wanted : List (List Char)) :
    (code : Nat) → (last : List (List Char)) → List (Nat × List Char) → Option Nat
  | _, _, [] => none
  | code, last, (shared, entry) :: later =>
    let (words, ahead) := entry.span (· != '+')
    let name := last.take shared ++ splitOn ' ' words
    let step := if ahead.isEmpty then 1 else (ofBase? 10 ahead.tail).getD 1
    if name = wanted then some code else findName wanted (code + step) name later

/-- The code point with a name.  Small letters count as capitals, except in the names of syllables
and unified ideographs. -/
def namedCharacter? (name : String) : Option Nat :=
  let cs := name.toList
  let capitals := cs.map Char.toUpper
  let words := splitOn ' ' capitals
  syllable? cs <|> ideograph? cs <|> numbered? capitals <|>
    nameTables.findSome? fun table => findName words table.start [] table.entries

end AudioPlan.Text
