import AudioPlan.Fault
import AudioPlan.Text.Blank
import AudioPlan.Text.Digit

/-!
# Integers in text

Decimal digits as natural numbers, and the lenient reading of an integer: blanks around it, a sign,
digits of any script, and single underscores between digits.  Decimal integers are neither read from
nor written in more than `digitLimit` digits.
-/

namespace AudioPlan.Text

/-- The number that a list of digits, highest first, denotes. -/
def ofDigits (digits : List Nat) : Nat :=
  digits.foldl (fun n d => 10 * n + d) 0

/-- The most digits that a decimal integer is read from or written in. -/
def digitLimit : Nat := 4300

/-- The number that a list of digits denotes, unless there are too many. -/
def ofDigits? (digits : List Nat) : Option Nat :=
  if digitLimit < digits.length then none else some (ofDigits digits)

/-- Whether an integer can be written in decimal digits. -/
def fits (n : Int) : Bool :=
  (Nat.toDigits 10 n.natAbs).length ≤ digitLimit

/-- An integer in decimal digits, unless it has too many. -/
def writeInt (n : Int) : Except Fault String :=
  if fits n then .ok (toString n) else .error .badValue

/-- Whether a character is one of the ten plain digits. -/
def isPlainDigit (c : Char) : Bool :=
  '0' ≤ c && c ≤ '9'

/-- The value of a plain digit. -/
def plainDigit (c : Char) : Nat :=
  c.toNat - '0'.toNat

/-- The number that plain digits denote. -/
def ofPlainDigits (cs : List Char) : Nat :=
  ofDigits (cs.map plainDigit)

/-- The value of a letter or digit in a number whose base is at most thirty-six. -/
def baseDigit? (c : Char) : Option Nat :=
  if isPlainDigit c then some (plainDigit c)
  else if 'a' ≤ c && c ≤ 'z' then some (c.toNat - 'a'.toNat + 10)
  else if 'A' ≤ c && c ≤ 'Z' then some (c.toNat - 'A'.toNat + 10)
  else none

/-- The number that characters denote in a base, if all of them are its digits. -/
def ofBase? (base : Nat) (cs : List Char) : Option Nat :=
  cs.foldlM (fun n c => do
    let d ← baseDigit? c
    if d < base then some (base * n + d) else none) 0

/-- The digits of a text in which single underscores may stand between digits. -/
def groupedDigits? : List Char → Option (List Nat)
  | [] => none
  | [c] => (digitValue? c).map fun d => [d]
  | c :: '_' :: rest => do
    let d ← digitValue? c
    let ds ← groupedDigits? rest
    return d :: ds
  | c :: rest => do
    let d ← digitValue? c
    let ds ← groupedDigits? rest
    return d :: ds

/-- An unsigned number with digits of any script, however many. -/
def readGrouped? (cs : List Char) : Option Nat :=
  (groupedDigits? cs).map ofDigits

/-- An unsigned integer with digits of any script. -/
def readUnsigned? (cs : List Char) : Option Nat :=
  (groupedDigits? cs).bind ofDigits?

/-- The integer that a text denotes, read leniently. -/
def readInt? (s : String) : Option Int :=
  match trimNumber s.toList with
  | '-' :: cs => (readUnsigned? cs).map fun n => -(n : Int)
  | '+' :: cs => (readUnsigned? cs).map fun n => (n : Int)
  | cs => (readUnsigned? cs).map fun n => (n : Int)

/-- A number in a base up to sixteen, with at least `width` digits in small letters. -/
def inBase (base width n : Nat) : List Char :=
  let digits := Nat.toDigits base n
  List.replicate (width - digits.length) '0' ++ digits

end AudioPlan.Text
