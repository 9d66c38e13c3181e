import AudioPlan.Binary64.Basic
import AudioPlan.Text.Case
import AudioPlan.Text.Number

/-!
# Floating-point numbers in text

The lenient reading of a number: blanks around it, a sign, the words for infinity and not-a-number
in any letter case, and decimal notation with an exponent, in digits of any script with single
underscores between them.
-/

namespace AudioPlan.Binary64

/-- Digits, or none at all. -/
def anyDigits? (cs : List Char) : Option (List Nat) :=
  if cs.isEmpty then some [] else Text.groupedDigits? cs

/-- The exponent that characters denote. -/
def exponent? (cs : List Char) : Option Int :=
  match cs with
  | '-' :: rest => (Text.readGrouped? rest).map fun n => -(n : Int)
  | '+' :: rest => (Text.readGrouped? rest).map fun n => (n : Int)
  | rest => (Text.readGrouped? rest).map fun n => (n : Int)

/-- Whether a character introduces an exponent. -/
def isExponentMark (c : Char) : Bool :=
  c == 'e' || c == 'E'

/-- The number that decimal notation without a sign denotes. -/
def decimal? (negative : Bool) (cs : List Char) : Option Binary64 := do
  let mantissa := cs.takeWhile fun c => !isExponentMark c
  let e ← match cs.dropWhile fun c => !isExponentMark c with
    | [] => some 0
    | _ :: rest => exponent? rest
  let whole ← anyDigits? (mantissa.takeWhile (· != '.'))
  let fraction ← anyDigits? ((mantissa.dropWhile (· != '.')).drop 1)
  let digits := whole ++ fraction
  if digits.isEmpty then none
  else some (ofDecimal negative (Text.ofDigits digits) (e - fraction.length))

/-- The number that characters without a sign denote. -/
def unsigned? (negative : Bool) (cs : List Char) : Option Binary64 :=
  let word := String.ofList (Text.lower cs)
  if word = "inf" || word = "infinity" then some (.infinity negative)
  else if word = "nan" then some .nan
  else decimal? negative cs

/-- The number that characters denote. -/
def ofChars? (cs : List Char) : Option Binary64 :=
  match Text.trimNumber cs with
  | '-' :: rest => unsigned? true rest
  | '+' :: rest => unsigned? false rest
  | rest => unsigned? false rest

end AudioPlan.Binary64
