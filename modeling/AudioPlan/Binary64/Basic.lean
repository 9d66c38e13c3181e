/-!
# Binary floating-point numbers of double width

A number of this kind is not-a-number, an infinity, or a signed natural number times a power of two.
All arithmetic is on natural numbers and exact up to one rounding, to the nearest representable
number and to an even mantissa in a tie, so every result can be computed and reasoned about.

* `ofRatio` rounds a quotient of natural numbers;
* `compareInt` orders a number against an integer without rounding;
* `truncate` drops the fraction.
-/

namespace AudioPlan

/-- A double: `finite s m e` stands for `m * 2 ^ e`, negated when `s` holds. -/
inductive Binary64 where
  | nan
  | infinity (negative : Bool)
  | finite (negative : Bool) (mantissa : Nat) (exponent : Int)
  deriving Repr, DecidableEq, Inhabited

namespace Binary64

/-- Mantissas lie below this bound. -/
def mantissaBound : Nat := 0x20000000000000

/-- The exponent of the smallest positive number. -/
def leastExponent : Int := -1074

/-- The exponent of the largest finite numbers. -/
def greatestExponent : Int := 971

/-- Zero with a sign. -/
def zero (negative : Bool) : Binary64 :=
  .finite negative 0 leastExponent

/-- `num / den` to the nearest natural number, a half to the even one. -/
def divideNearest (num den : Nat) : Nat :=
  let quotient := num / den
  let twice := 2 * (num % den)
  if twice < den then quotient
  else if den < twice then quotient + 1
  else quotient + quotient % 2

/-- `num / den / 2 ^ e` as a quotient of natural numbers. -/
def scaled (num den : Nat) (e : Int) : Nat × Nat :=
  if e < 0 then (num * Nat.pow 2 e.natAbs, den) else (num, den * Nat.pow 2 e.natAbs)

/-- The number for a mantissa that may have reached the bound in rounding. -/
def ofRounded (negative : Bool) (mantissa : Nat) (e : Int) : Binary64 :=
  let carried := mantissa = mantissaBound
  let exponent := if carried then e + 1 else e
  if greatestExponent < exponent then .infinity negative
  else .finite negative (if carried then mantissa / 2 else mantissa) exponent

/-- The number nearest to `num / den`, for a positive `den`. -/
def ofRatio (negative : Bool) (num den : Nat) : Binary64 :=
  if num = 0 then zero negative
  else
    let guess := max leastExponent ((num.log2 : Int) - den.log2 - 53)
    let (n, d) := scaled num den guess
    let exponent := if n / d < mantissaBound then guess else guess + 1
    let (n, d) := scaled num den exponent
    ofRounded negative (divideNearest n d) exponent

/-- The number nearest to an integer. -/
def ofInt (n : Int) : Binary64 :=
  ofRatio (n < 0) n.natAbs 1

/-- The number nearest to `digits * 10 ^ e`.  Powers far outside the range are not computed. -/
def ofDecimal (negative : Bool) (digits : Nat) (e : Int) : Binary64 :=
  let size := ((toString digits).length : Int) + e
  if digits = 0 || size < -400 then zero negative
  else if 400 < size then .infinity negative
  else if e < 0 then ofRatio negative digits (Nat.pow 10 e.natAbs)
  else ofRatio negative (digits * Nat.pow 10 e.natAbs) 1

/-- A finite number as a quotient of natural numbers, without its sign. -/
def ratio (mantissa : Nat) (e : Int) : Nat × Nat :=
  if e < 0 then (mantissa, Nat.pow 2 e.natAbs) else (mantissa * Nat.pow 2 e.natAbs, 1)

/-- An integer with a sign given apart. -/
def signed (negative : Bool) (n : Nat) : Int :=
  if negative then -n else n

/-- The integer part of a finite number. -/
def truncate? : Binary64 → Option Int
  | .finite negative m e =>
    let (num, den) := ratio m e
    some (signed negative (num / den))
  | _ => none

/-- The value of a number that is an integer. -/
def toInt? : Binary64 → Option Int
  | .finite negative m e =>
    let (num, den) := ratio m e
    if num % den = 0 then some (signed negative (num / den)) else none
  | _ => none

/-- Whether the number is neither zero nor negative zero; not-a-number counts as well. -/
def isNonzero : Binary64 → Bool
  | .finite _ m _ => m != 0
  | _ => true

/-- How the number compares with an integer; not-a-number compares with none. -/
def compareInt? (x : Binary64) (n : Int) : Option Ordering :=
  match x with
  | .nan => none
  | .infinity negative => some (if negative then .lt else .gt)
  | .finite negative m e =>
    let (num, den) := ratio m e
    some (compare (signed negative num) (n * den))

/-- How two numbers compare; not-a-number compares with none, and the two zeros are equal. -/
def compare? (x y : Binary64) : Option Ordering :=
  match x, y with
  | .nan, _ => none
  | _, .nan => none
  | .infinity s, .infinity t => some (compare t.toNat s.toNat)
  | .infinity s, _ => some (if s then .lt else .gt)
  | _, .infinity t => some (if t then .gt else .lt)
  | .finite s m e, .finite t k f =>
    let (a, b) := ratio m e
    let (c, d) := ratio k f
    some (compare (signed s a * d) (signed t c * b))

/-- The number with the other sign. -/
def negate : Binary64 → Binary64
  | .nan => .nan
  | .infinity s => .infinity (!s)
  | .finite s m e => .finite (!s) m e

/-- The number nearest to a signed quotient. -/
def ofSignedRatio (num : Int) (den : Nat) : Binary64 :=
  ofRatio (num < 0) num.natAbs den

/-- The sum, rounded once. -/
def add : Binary64 → Binary64 → Binary64
  | .nan, _ => .nan
  | _, .nan => .nan
  | .infinity s, .infinity t => if s = t then .infinity s else .nan
  | .infinity s, _ => .infinity s
  | _, .infinity t => .infinity t
  | .finite s m e, .finite t k f =>
    if m = 0 && k = 0 then zero (s && t)
    else
      let (a, b) := ratio m e
      let (c, d) := ratio k f
      ofSignedRatio (signed s a * d + signed t c * b) (b * d)

/-- The product, rounded once. -/
def mul : Binary64 → Binary64 → Binary64
  | .nan, _ => .nan
  | _, .nan => .nan
  | .infinity s, .infinity t => .infinity (s != t)
  | .infinity s, .finite t k _ => if k = 0 then .nan else .infinity (s != t)
  | .finite s m _, .infinity t => if m = 0 then .nan else .infinity (s != t)
  | .finite s m e, .finite t k f =>
    let (a, b) := ratio m e
    let (c, d) := ratio k f
    ofRatio (s != t) (a * c) (b * d)

end Binary64

end AudioPlan
