import AudioPlan.Text.Blank
import AudioPlan.Text.Number

/-!
# Conditions on numbers

A condition compares a number with a fixed bound, such as `<=6` or `128000`.  The file holds its
meaning, its reading from text and its printed form.
-/

namespace AudioPlan

/-- The ways of comparing a number with a bound. -/
inductive Comparison where
  | equal
  | less
  | atMost
  | greater
  | atLeast
  deriving Repr, DecidableEq

namespace Comparison

/-- The sign of a comparison. -/
def sign : Comparison → String
  | .equal => "="
  | .less => "<"
  | .atMost => "<="
  | .greater => ">"
  | .atLeast => ">="

/-- Whether the comparison admits the order in which a number stands to the bound. -/
def admits : Comparison → Ordering → Bool
  | .equal, o => o == .eq
  | .less, o => o == .lt
  | .atMost, o => o != .gt
  | .greater, o => o == .gt
  | .atLeast, o => o != .lt

end Comparison

/-- A condition on a number. -/
structure Condition where
  comparison : Comparison
  bound : Nat
  deriving Repr, DecidableEq

namespace Condition

/-- Whether a number meets the condition. -/
def holds (c : Condition) (n : Int) : Bool :=
  match c.comparison with
  | .equal => n == c.bound
  | .less => n < c.bound
  | .atMost => n ≤ c.bound
  | .greater => c.bound < n
  | .atLeast => c.bound ≤ n

/-- The printed form: the sign, unless it is that of equality, and the bound. -/
def text (c : Condition) : String :=
  match c.comparison with
  | .equal => toString c.bound
  | other => other.sign ++ toString c.bound

/-- The comparison whose sign is in front, equality if there is no sign, and the rest. -/
def readSign : List Char → Comparison × List Char
  | '<' :: '=' :: rest => (.atMost, rest)
  | '>' :: '=' :: rest => (.atLeast, rest)
  | '<' :: rest => (.less, rest)
  | '>' :: rest => (.greater, rest)
  | '=' :: rest => (.equal, rest)
  | rest => (.equal, rest)

/-- The comparison and the digits that characters hold: an optional sign and decimal digits of any
script, with blanks around either. -/
def partsOf? (cs : List Char) : Option (Comparison × List Nat) :=
  let (comparison, rest) := readSign (Text.trimStart cs)
  let rest := Text.trimStart rest
  let digits := (rest.takeWhile Text.isDigit).filterMap Text.digitValue?
  let after := rest.dropWhile Text.isDigit
  if digits.isEmpty || !after.all Text.isBlank then none
  else some (comparison, digits)

/-- The condition that characters denote, unless its bound has too many digits. -/
def ofChars? (cs : List Char) : Option Condition :=
  match partsOf? cs with
  | some (comparison, digits) => (Text.ofDigits? digits).map fun bound => ⟨comparison, bound⟩
  | none => none

/-- The condition that a text denotes. -/
def ofText? (s : String) : Option Condition :=
  ofChars? s.toList

end Condition

end AudioPlan
