import AudioPlan.Binary64.Shortest

/-!
# Numbers with a given count of digits

A floating-point number with so many digits behind the point, in positional or in exponent notation,
or with so many significant digits in the notation that suits it.  The digits are those of the exact
value, rounded to the nearest, a half to the even digit.
-/

namespace AudioPlan.Binary64

/-- A way to write numbers. -/
inductive Notation where
  | positional
  | exponent
  /-- With an exponent only where the number is very small or has more digits than asked for. -/
  | suited
  deriving Repr, DecidableEq

/-- Digits behind a point; without digits the point is kept only if `point` says so. -/
def behindPoint (point : Bool) (digits : String) : String :=
  if digits.isEmpty then (if point then "." else "") else "." ++ digits

/-- The text of `n / 10 ^ places`. -/
def placesText (point : Bool) (places n : Nat) : String :=
  let fraction := if places = 0 then "" else padded places (n % Nat.pow 10 places)
  toString (n / Nat.pow 10 places) ++ behindPoint point fraction

/-- The first `places + 1` digits of a positive quotient and the power of ten of the first one. -/
def leadingDigits (num den places : Nat) : Nat × Int :=
  let lead := pointPlace num den - 1
  let (n, d) := scaledTen num den (lead - places)
  let digits := divideNearest n d
  if digits = Nat.pow 10 (places + 1) then (digits / 10, lead + 1) else (digits, lead)

/-- The first digits of a finite number without its sign. -/
def leading (m : Nat) (e : Int) (places : Nat) : Nat × Int :=
  if m = 0 then (0, 0)
  else
    let (num, den) := ratio m e
    leadingDigits num den places

/-- A number in positional notation. -/
def positionalText (point : Bool) (places m : Nat) (e : Int) : String :=
  let (num, den) := ratio m e
  placesText point places (divideNearest (num * Nat.pow 10 places) den)

/-- A number in exponent notation, given its digits. -/
def exponentNotation (point : Bool) (places digits : Nat) (lead : Int) : String :=
  placesText point places digits ++ exponentText lead

/-- Characters without zeros at the end. -/
def dropEndZeros (s : String) : String :=
  String.ofList ((s.toList.reverse.dropWhile (· == '0')).reverse)

/-- A number in the notation that suits it, with `count` significant digits.  Zeros at the end are
left out unless `point` says that they stay. -/
def suitedText (point : Bool) (count m : Nat) (e : Int) : String :=
  let (digits, lead) := leading m e (count - 1)
  let short (places : Nat) (text : String) : String :=
    if point || places = 0 then text
    else
      let text := dropEndZeros text
      if text.endsWith "." then String.ofList (text.toList.dropLast) else text
  if -4 ≤ lead && lead < count then
    let places := ((count : Int) - 1 - lead).toNat
    short places (placesText point places digits)
  else short (count - 1) (placesText point (count - 1) digits) ++ exponentText lead

/-- The text of a number.  `point` keeps a point with nothing behind it, and zeros at the end. -/
def withDigits (way : Notation) (point : Bool) (count : Nat) : Binary64 → String
  | .nan => "nan"
  | .infinity negative => if negative then "-inf" else "inf"
  | .finite negative m e =>
    (if negative then "-" else "") ++
      match way with
      | .positional => positionalText point count m e
      | .exponent =>
        let (digits, lead) := leading m e count
        exponentNotation point count digits lead
      | .suited => suitedText point (max count 1) m e

end AudioPlan.Binary64
