/-!
# Dates and times

A date, or a date with a time of day and possibly an offset from universal time.  A timestamp may
hold any numbers; whether there is such a day is a matter of its own (`exists?`).
-/

namespace AudioPlan

/-- An offset from universal time. -/
inductive Offset where
  | universal
  | minutes (n : Int)
  deriving Repr, DecidableEq

/-- A time of day. -/
structure TimeOfDay where
  hour : Nat
  minute : Nat
  second : Nat
  microsecond : Nat := 0
  offset : Option Offset := none
  deriving Repr, DecidableEq

/-- A date, possibly with a time. -/
structure Timestamp where
  year : Nat
  month : Nat
  day : Nat
  time : Option TimeOfDay := none
  deriving Repr, DecidableEq

namespace Timestamp

/-- Whether a year has a day more. -/
def isLeap (year : Nat) : Bool :=
  year % 4 == 0 && (year % 100 != 0 || year % 400 == 0)

/-- The number of days in a month. -/
def daysIn (year : Nat) : (month : Nat) → Nat
  | 2 => if isLeap year then 29 else 28
  | 4 | 6 | 9 | 11 => 30
  | _ => 31

/-- Whether there is such an offset: less than a day either way. -/
def offsetExists : Option Offset → Bool
  | some (.minutes n) => n.natAbs < 24 * 60
  | _ => true

/-- Whether there is such a time. -/
def timeExists (t : TimeOfDay) : Bool :=
  t.hour < 24 && t.minute < 60 && t.second < 60 && offsetExists t.offset

/-- Whether there is such a day, and such a time on it. -/
def exists? (t : Timestamp) : Bool :=
  1 ≤ t.year && 1 ≤ t.month && t.month ≤ 12 && 1 ≤ t.day && t.day ≤ daysIn t.year t.month &&
    t.time.all timeExists

/-- An offset as messages show it. -/
def shownOffset : Offset → String
  | .universal => "datetime.timezone.utc"
  | .minutes n =>
    if n = 0 then "datetime.timezone.utc"
    else if 0 < n then s!"datetime.timezone(datetime.timedelta(seconds={60 * n}))"
    else s!"datetime.timezone(datetime.timedelta(days=-1, seconds={86400 + 60 * n}))"

/-- The parts of a time as messages show them; seconds and their fraction are left out where they
are zero. -/
def shownTime (t : TimeOfDay) : List String :=
  let numbers :=
    if t.microsecond != 0 then [t.hour, t.minute, t.second, t.microsecond]
    else if t.second != 0 then [t.hour, t.minute, t.second]
    else [t.hour, t.minute]
  numbers.map toString ++ (t.offset.map fun o => "tzinfo=" ++ shownOffset o).toList

/-- The name of the kind of a timestamp. -/
def kind (t : Timestamp) : String :=
  if t.time.isSome then "datetime" else "date"

/-- A timestamp as messages show it. -/
def shown (t : Timestamp) : String :=
  let date := [t.year, t.month, t.day].map toString
  let time := (t.time.map shownTime).getD []
  "datetime." ++ t.kind ++ "(" ++ ", ".intercalate (date ++ time) ++ ")"

/-- A time without a date as messages show it. -/
def shownClock (t : TimeOfDay) : String :=
  "datetime.time(" ++ ", ".intercalate (shownTime t) ++ ")"

end Timestamp

end AudioPlan
