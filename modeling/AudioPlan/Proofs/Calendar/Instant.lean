import AudioPlan.Calendar.Instant

/-!
# Instants that the calendar reaches

The calendar of JSON stamps has the years from 1 to 9999.  Years are counted from March on within a
cycle of four hundred years; what this makes of the year of a day is `CalendarTime.exists_year`.
The bounds of the year follow, and from them that every instant from the beginning of the year 1 to
the end of the year 9999 has a stamp (`Instant.InCalendar.exists_stampText`).
-/

namespace AudioPlan

namespace CalendarTime

/-- The year of a day: a number of cycles, and one of the four hundred years of a cycle.  January
and February, which are the days of such a year from 306 on, are in the next year of the
calendar. -/
theorem exists_year (days : Int) : ∃ (cycle : Int) (inCycle year : Nat),
    days + epochDay = cycle * cycleDays + inCycle ∧ inCycle < 146097 ∧
    year = (inCycle - inCycle / 1460 + inCycle / 36524 - inCycle / 146096) / 365 ∧
    (dateOf days).1 = cycle * 400 + year +
      if inCycle - (365 * year + year / 4 - year / 100) < 306 then 0 else 1 := by
  have hcycle := Int.mul_ediv_add_emod (days + epochDay) cycleDays
  have hlow : 0 ≤ (days + epochDay) % cycleDays := Int.emod_nonneg _ (by decide)
  have hhigh : (days + epochDay) % cycleDays < cycleDays := Int.emod_lt_of_pos _ (by decide)
  refine ⟨(days + epochDay) / cycleDays, ((days + epochDay) % cycleDays).toNat, _, ?_, ?_, rfl, ?_⟩
  · rw [Int.toNat_of_nonneg hlow, Int.mul_comm]
    exact hcycle.symm
  · rw [cycleDays] at hlow hhigh ⊢
    omega
  · generalize hin : ((days + epochDay) % cycleDays).toNat = inCycle
    generalize hyear :
      (inCycle - inCycle / 1460 + inCycle / 36524 - inCycle / 146096) / 365 = year
    simp only [dateOf, hin, hyear]
    generalize inCycle - (365 * year + year / 4 - year / 100) = inYear
    by_cases hmonth : (5 * inYear + 2) / 153 < 10
    · rw [if_pos hmonth, if_pos (by omega)]
      omega
    · rw [if_neg hmonth, if_neg (by omega)]
      omega

/-- The days from the first of January of the year 1 on are in a year with a positive number. -/
theorem one_le_year {days : Int} (hdays : -719162 ≤ days) : 1 ≤ (dateOf days).1 := by
  obtain ⟨cycle, inCycle, year, hsum, hin, hyear, hdate⟩ := exists_year days
  rw [epochDay, cycleDays] at hsum
  rw [hdate]
  split <;> omega

/-- The days up to the last of December of the year 9999 are in a year up to it. -/
theorem year_le {days : Int} (hdays : days ≤ 2932896) : (dateOf days).1 ≤ 9999 := by
  obtain ⟨cycle, inCycle, year, hsum, hin, hyear, hdate⟩ := exists_year days
  rw [epochDay, cycleDays] at hsum
  rw [hdate]
  split <;> omega

end CalendarTime

namespace Instant

/-- The instants from the beginning of the year 1 to the end of the year 9999. -/
structure InCalendar (i : Instant) : Prop where
  low : -62135596800000000 ≤ i.microseconds
  high : i.microseconds < 253402300800000000

theorem checkRange_of_le {seconds : Int} (hlow : -62135596800 ≤ seconds)
    (hhigh : seconds ≤ 253402300799) : checkRange seconds = .ok () := by
  simp only [checkRange, Bool.or_eq_true, decide_eq_true_eq]
  rw [if_neg (by omega), if_neg (by omega)]

/-- Such an instant is written in JSON. -/
theorem InCalendar.exists_stampText {i : Instant} (hi : i.InCalendar) :
    ∃ stamp, i.stampText = .ok stamp := by
  obtain ⟨hlow, hhigh⟩ := hi
  have hrange : checkRange (i.microseconds / 1000000) = .ok () :=
    checkRange_of_le (by omega) (by omega)
  have hfirst : 1 ≤ (CalendarTime.ofSeconds (i.microseconds / 1000000)).year :=
    CalendarTime.one_le_year (by omega)
  have hlast : (CalendarTime.ofSeconds (i.microseconds / 1000000)).year ≤ 9999 :=
    CalendarTime.year_le (by omega)
  have hyear : ¬ ((CalendarTime.ofSeconds (i.microseconds / 1000000)).year < 1 ∨
      9999 < (CalendarTime.ofSeconds (i.microseconds / 1000000)).year) := by omega
  simp only [stampText, hrange, Bool.or_eq_true, decide_eq_true_eq, if_neg hyear]
  exact ⟨_, rfl⟩

example : stampText ⟨253402300799, 253402300799999999⟩ = .ok "9999-12-31T23:59:59.999999+00:00" :=
  rfl

example : stampText ⟨253402300800, 253402300800000000⟩ = .error .badValue :=
  rfl

end Instant

end AudioPlan
