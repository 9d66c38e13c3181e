import AudioPlan.Binary64.Shortest
import AudioPlan.Fault
import AudioPlan.Value.Basic

/-!
# Instants

A point in time, counted from the beginning of 1970 in universal time, and the two ways in which it
is written: to the second in text, and to the microsecond in JSON.  Text drops what is left of a
second; JSON rounds to the nearest microsecond.
-/

namespace AudioPlan

/-- A point in time. -/
structure Instant where
  /-- Whole seconds, rounded down. -/
  seconds : Int
  /-- Microseconds, rounded to the nearest. -/
  microseconds : Int
  deriving Repr, DecidableEq

/-- A day of the calendar with a time. -/
structure CalendarTime where
  year : Int
  month : Nat
  day : Nat
  hour : Nat
  minute : Nat
  second : Nat
  deriving Repr, DecidableEq

namespace CalendarTime

/-- Days from the first of March of the year zero to the beginning of 1970. -/
def epochDay : Int := 719468

/-- Days in four hundred years. -/
def cycleDays : Int := 146097

/-- The year, month and day that lies so many days behind the beginning of 1970.  Years are counted
from March on, so that the day added in a leap year is the last one. -/
def dateOf (days : Int) : Int × Nat × Nat :=
  let shifted := days + epochDay
  let cycle := shifted / cycleDays
  let inCycle := (shifted % cycleDays).toNat
  let yearInCycle := (inCycle - inCycle / 1460 + inCycle / 36524 - inCycle / 146096) / 365
  let inYear := inCycle - (365 * yearInCycle + yearInCycle / 4 - yearInCycle / 100)
  let month := (5 * inYear + 2) / 153
  let day := inYear - (153 * month + 2) / 5 + 1
  let year := yearInCycle + cycle * 400
  if month < 10 then (year, month + 3, day) else (year + 1, month - 9, day)

/-- The day and time that lies so many seconds behind the beginning of 1970. -/
def ofSeconds (seconds : Int) : CalendarTime :=
  let (year, month, day) := dateOf (seconds / 86400)
  let inDay := (seconds % 86400).toNat
  { year, month, day, hour := inDay / 3600, minute := inDay / 60 % 60, second := inDay % 60 }

/-- Month, day and time in two digits each. -/
def rest (t : CalendarTime) : String :=
  let two := Binary64.padded 2
  s!"-{two t.month}-{two t.day}T{two t.hour}:{two t.minute}:{two t.second}"

end CalendarTime

namespace Instant

/-- The microseconds in a fraction of a second, which is multiplied as a floating-point number. -/
def fractionMicroseconds (negative : Bool) (num den : Nat) : Int :=
  match (Binary64.ofRatio false num den).mul (Binary64.ofInt 1000000) with
  | .finite _ m e =>
    let (num, den) := Binary64.ratio m e
    Binary64.signed negative (Binary64.divideNearest num den)
  | _ => 0

/-- The instant that a number of seconds denotes. -/
def ofNumber (v : Value) : Except Fault Instant :=
  match v with
  | .float .nan => .error .badValue
  | .float (.infinity _) => .error .outOfRange
  | .float (.finite negative m e) =>
    let (num, den) := Binary64.ratio m e
    let whole := Binary64.signed negative (num / den)
    .ok {
      seconds := Binary64.signed negative num / den
      microseconds := 1000000 * whole + fractionMicroseconds negative (num % den) den }
  | v =>
    match v.count? with
    | some n => .ok { seconds := n, microseconds := 1000000 * n }
    | none => .error .wrongKind

/-- Refuses seconds that the system cannot count. -/
def checkRange (seconds : Int) : Except Fault Unit :=
  if seconds < -0x8000000000000000 || 0x8000000000000000 ≤ seconds then .error .outOfRange
  else if seconds < -67768040609740800 || 67768036191676799 < seconds then .error .beyondSystem
  else .ok ()

/-- The time in text, to the second. -/
def lineText (i : Instant) : Except Fault String := do
  checkRange i.seconds
  let t := CalendarTime.ofSeconds i.seconds
  if 0x80000000 ≤ t.year then throw .outOfRange
  return toString t.year ++ t.rest ++ "+0000"

/-- The time in JSON, to the microsecond. -/
def stampText (i : Instant) : Except Fault String := do
  let seconds := i.microseconds / 1000000
  checkRange seconds
  let t := CalendarTime.ofSeconds seconds
  if t.year < 1 || 9999 < t.year then throw .badValue
  let micro := (i.microseconds % 1000000).toNat
  let fraction := if micro = 0 then "" else "." ++ Binary64.padded 6 micro
  return Binary64.padded 4 t.year.toNat ++ t.rest ++ fraction ++ "+00:00"

end Instant

end AudioPlan
