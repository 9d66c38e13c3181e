import AudioPlan.Binary64.Basic

/-!
# Decimal text of binary numbers

The fewest decimal digits that read back as the same number, and the texts built from them.  The
digits come from exact arithmetic: on the decimal grids with 1, 2, … 17 digits the two neighbours of
the number are tested, and the first grid with a neighbour that rounds to the number wins.
A `Style` says how digits become text.
-/

namespace AudioPlan.Binary64

/-- Where the decimal point of a positive quotient stands: the least `p` with
`num / den < 10 ^ p`. -/
def pointPlace (num den : Nat) : Int :=
  ((toString (num * Nat.pow 10 400 / den)).length : Int) - 400

/-- `num / den / 10 ^ p` as a quotient of natural numbers. -/
def scaledTen (num den : Nat) (p : Int) : Nat × Nat :=
  if p < 0 then (num * Nat.pow 10 p.natAbs, den) else (num, den * Nat.pow 10 p.natAbs)

/-- The nearer of the two neighbours `q` and `q + 1` of `num / den` that `fits`; of two at equal
distance the even one. -/
def nearerFitting (fits : Nat → Bool) (num den : Nat) : Option Nat :=
  let q := num / den
  match fits q, fits (q + 1) with
  | false, false => none
  | true, false => some q
  | false, true => some (q + 1)
  | true, true => some (divideNearest num den)

/-- The shortest digits of `m * 2 ^ e` on grids of `count` digits or more, with the place of the
point. -/
def shortestFrom (negative : Bool) (m : Nat) (e : Int) (num den : Nat) (point : Int) :
    (more count : Nat) → Nat × Int
  | 0, count =>
    let (n, d) := scaledTen num den (point - count)
    (divideNearest n d, point - count)
  | more + 1, count =>
    let unit := point - count
    let (n, d) := scaledTen num den unit
    let fits q := q != 0 && ofDecimal negative q unit == .finite negative m e
    match nearerFitting fits n d with
    | some q => (q, unit)
    | none => shortestFrom negative m e num den point more (count + 1)

/-- Digits and a power of ten whose product is the shortest decimal that reads back as
`m * 2 ^ e`. -/
def shortest (negative : Bool) (m : Nat) (e : Int) : Nat × Int :=
  if m = 0 then (0, 0)
  else
    let (num, den) := ratio m e
    shortestFrom negative m e num den (pointPlace num den) 16 1

/-- How digits become text: which powers of ten are written without an exponent, what an integer
shows after its last digit, and the words for what is not finite. -/
structure Style where
  /-- Least position of the leading digit that is written without an exponent. -/
  least : Int := -4
  /-- First position of the leading digit that is written with an exponent. -/
  bound : Int := 16
  /-- Whether an exponent follows at least one digit behind the point. -/
  pointBeforeExponent : Bool := false
  nan : String := "nan"
  infinity : String := "inf"

/-- `n` without its trailing zeros, and their number. -/
def dropZeros : (fuel n : Nat) → Nat × Nat
  | 0, n => (n, 0)
  | fuel + 1, n =>
    if n != 0 && n % 10 = 0 then
      let (k, zeros) := dropZeros fuel (n / 10)
      (k, zeros + 1)
    else (n, 0)

/-- A natural number in decimal with at least `width` digits. -/
def padded (width n : Nat) : String :=
  let digits := toString n
  "".pushn '0' (width - digits.length) ++ digits

/-- An exponent with its sign and at least two digits. -/
def exponentText (e : Int) : String :=
  (if e < 0 then "e-" else "e+") ++ padded 2 e.natAbs

/-- The text of the decimal `digits * 10 ^ unit`. -/
def Style.decimal (style : Style) (digits : Nat) (unit : Int) : String :=
  let (digits, zeros) := dropZeros (toString digits).length digits
  let unit := unit + zeros
  let text := toString digits
  let lead := (text.length : Int) + unit - 1
  if digits = 0 then "0.0"
  else if style.least ≤ lead && lead < style.bound then
    if 0 ≤ unit then text ++ "".pushn '0' unit.natAbs ++ ".0"
    else if 0 ≤ lead then
      let whole := (lead + 1).natAbs
      String.ofList (text.toList.take whole) ++ "." ++ String.ofList (text.toList.drop whole)
    else "0." ++ "".pushn '0' (lead.natAbs - 1) ++ text
  else
    let fraction := String.ofList (text.toList.drop 1)
    let mantissa := String.ofList (text.toList.take 1) ++
      (if fraction.isEmpty then (if style.pointBeforeExponent then ".0" else "")
       else "." ++ fraction)
    mantissa ++ exponentText lead

/-- The text of a number. -/
def Style.render (style : Style) : Binary64 → String
  | .nan => style.nan
  | .infinity negative => (if negative then "-" else "") ++ style.infinity
  | .finite negative m e =>
    let (digits, unit) := shortest negative m e
    (if negative then "-" else "") ++ style.decimal digits unit

/-- The style of numbers in titles and messages. -/
def plain : Style := {}

end AudioPlan.Binary64
