import AudioPlan.Calendar.Timestamp
import AudioPlan.Text.Number

/-!
# Timestamps in YAML

The reading of a date, or of a date with a time, from the characters of a scalar.  It takes any
numbers of the right length.
-/

namespace AudioPlan.Yaml.Timestamp

/-- A number of at least and at most so many plain digits. -/
def digits? (least most : Nat) (cs : List Char) : Option (Nat × List Char) :=
  let run := (cs.take most).takeWhile Text.isPlainDigit
  if run.length < least then none else some (Text.ofPlainDigits run, cs.drop run.length)

/-- Behind a character that must be there. -/
def expect? (c : Char) : List Char → Option (List Char)
  | d :: rest => if c = d then some rest else none
  | [] => none

/-- Behind spaces and tabs. -/
def skipBlanks (cs : List Char) : List Char :=
  cs.dropWhile fun c => c == ' ' || c == '\t'

/-- The microseconds that the digits of a fraction denote. -/
def microseconds (digits : List Char) : Nat :=
  let six := digits.take 6
  Text.ofPlainDigits six * Nat.pow 10 (6 - six.length)

/-- The minutes behind a colon; none if there is no colon. -/
def offsetMinutes? : List Char → Option (Nat × List Char)
  | ':' :: rest => digits? 2 2 rest
  | rest => some (0, rest)

/-- An offset with blanks before it, up to the end. -/
def offset? (cs : List Char) : Option (Option Offset) :=
  if cs.isEmpty then some none
  else
    match skipBlanks cs with
    | ['Z'] => some (some .universal)
    | sign :: rest => do
      if sign != '+' && sign != '-' then none
      let (hours, rest) ← digits? 1 2 rest
      let (minutes, rest) ← offsetMinutes? rest
      let total : Int := 60 * hours + minutes
      if rest.isEmpty then some (some (.minutes (if sign = '-' then -total else total))) else none
    | [] => none

/-- A time of day, up to the end. -/
def time? (cs : List Char) : Option TimeOfDay := do
  let (hour, rest) ← digits? 1 2 cs
  let (minute, rest) ← digits? 2 2 (← expect? ':' rest)
  let (second, rest) ← digits? 2 2 (← expect? ':' rest)
  let (fraction, rest) : List Char × List Char := match rest with
    | '.' :: rest => (rest.takeWhile Text.isPlainDigit, rest.dropWhile Text.isPlainDigit)
    | rest => ([], rest)
  let offset ← offset? rest
  return { hour, minute, second, microsecond := microseconds fraction, offset }

/-- The time behind a date, if there is one. -/
def timePart? : List Char → Option (Option TimeOfDay)
  | [] => some none
  | c :: rest =>
    if c = 'T' || c = 't' then (time? rest).map some
    else if c = ' ' || c = '\t' then (time? (skipBlanks rest)).map some
    else none

/-- The timestamp that characters denote. -/
def ofChars? (cs : List Char) : Option Timestamp := do
  let (year, rest) ← digits? 4 4 cs
  let (month, rest) ← digits? 1 2 (← expect? '-' rest)
  let (day, rest) ← digits? 1 2 (← expect? '-' rest)
  let time ← timePart? rest
  return { year, month, day, time }

/-- Whether characters denote a timestamp even where none is asked for.  A date alone must have all
its digits. -/
def isPlain (cs : List Char) : Bool :=
  match ofChars? cs with
  | some t => t.time.isSome || cs.length = 10
  | none => false

end AudioPlan.Yaml.Timestamp
