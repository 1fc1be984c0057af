import ChequeTeller.Time.Civil
import Mathlib.Algebra.BigOperators.Intervals
import Mathlib.Tactic.IntervalCases

/-!
Dates of the proleptic Gregorian calendar. `sinceEpoch` counts the seconds since 1970 year by year
and month by month, leap years with the rest. Every second since then has a date, which is one of
the calendar, and counting back from it gives that second. Dates before 1970 are left apart.
-/

namespace ChequeTeller.Time.Civil

/-- A date of the calendar with a time of day. -/
structure Valid (c : Civil) : Prop where
  month : 1 ≤ c.month ∧ c.month ≤ 12
  day : 1 ≤ c.day ∧ c.day ≤ daysInMonth c.year c.month
  hour : c.hour < 24
  minute : c.minute < 60
  second : c.second < 60

theorem daysInMonth_le (year month : Nat) : daysInMonth year month ≤ 31 := by
  unfold daysInMonth
  split
  · split <;> decide
  all_goals decide

def yearLength (year : Nat) : Nat :=
  if isLeap year then 366 else 365

/-- Days from the first of January 1970 to that of the year. -/
def daysToYear (year : Nat) : Nat :=
  ∑ y ∈ Finset.Ico 1970 year, yearLength y

/-- Days from the first of January to the first of the month. -/
def daysToMonth (year month : Nat) : Nat :=
  ∑ m ∈ Finset.Ico 1 month, daysInMonth year m

/-- The seconds from 1970-01-01T00:00:00Z to a date not before that year. -/
def sinceEpoch (c : Civil) : Nat :=
  (daysToYear c.year + daysToMonth c.year c.month + (c.day - 1)) * 86400 +
    c.hour * 3600 + c.minute * 60 + c.second

/-! Years that begin in March. -/

/-- Days from 0000-03-01 to the first of March of the year. -/
def daysToMarch (year : Nat) : Nat :=
  365 * year + year / 4 - year / 100 + year / 400

theorem daysToMarch_era (era : Nat) {y : Nat} (h : y < 400) :
    daysToMarch (era * 400 + y) = era * 146097 + daysBeforeYear y := by
  unfold daysToMarch daysBeforeYear
  omega

theorem isLeap_iff {year : Nat} :
    isLeap year = true ↔ year % 4 = 0 ∧ (year % 100 ≠ 0 ∨ year % 400 = 0) := by
  simp [isLeap]

/-- From March to March there are the days of the year in which the second one lies. -/
theorem daysToMarch_succ (year : Nat) :
    daysToMarch (year + 1) = daysToMarch year + yearLength (year + 1) := by
  have small : year / 100 ≤ year := Nat.div_le_self _ _
  have leap := @isLeap_iff (year + 1)
  unfold daysToMarch yearLength
  rw [@Nat.succ_div year 4, @Nat.succ_div year 100, @Nat.succ_div year 400]
  generalize year / 4 = fourths, year / 100 = hundredths, year / 400 = eras at *
  by_cases four : 4 ∣ year + 1
  · by_cases hundred : 100 ∣ year + 1
    · by_cases era : 400 ∣ year + 1
      · rw [if_pos four, if_pos hundred, if_pos era, if_pos (leap.mpr (by omega))]
        omega
      · rw [if_pos four, if_pos hundred, if_neg era, if_neg (mt leap.mp (by omega))]
        omega
    · rw [if_pos four, if_neg hundred, if_neg (by omega), if_pos (leap.mpr (by omega))]
      omega
  · rw [if_neg four, if_neg (by omega), if_neg (by omega), if_neg (mt leap.mp (by omega))]
    omega

theorem daysToYear_add (years : Nat) :
    daysToYear (1970 + years) + epochDays = daysToMarch (1969 + years) + 306 := by
  induction years with
  | zero =>
      have none : daysToYear 1970 = 0 := Finset.sum_eq_zero (by simp)
      rw [Nat.add_zero, none]
      decide
  | succ years ih =>
      have step : daysToYear (1970 + years + 1) =
          daysToYear (1970 + years) + yearLength (1970 + years) :=
        Finset.sum_Ico_succ_top (Nat.le_add_right _ _) _
      have march := daysToMarch_succ (1969 + years)
      have same : 1969 + years + 1 = 1970 + years := by omega
      rw [← Nat.add_assoc, ← Nat.add_assoc, step, march, same]
      omega

theorem daysToYear_eq {year : Nat} (h : 1970 ≤ year) :
    daysToYear year + epochDays = daysToMarch (year - 1) + 306 := by
  have shifted := daysToYear_add (year - 1970)
  rwa [show 1970 + (year - 1970) = year by omega,
    show 1969 + (year - 1970) = year - 1 by omega] at shifted

/-- January and February end the year that began in March. -/
theorem daysToMonth_early (year : Nat) {month : Nat} (first : 1 ≤ month) (last : month ≤ 2) :
    daysToMonth year month + 306 = daysBeforeMonth (month + 9) := by
  interval_cases month
  · simp [daysToMonth, daysBeforeMonth]
  · simp [daysToMonth, daysBeforeMonth, daysInMonth]

theorem daysToMonth_late (year : Nat) {month : Nat} (first : 3 ≤ month) (last : month ≤ 12) :
    daysToMonth year month + 306 = daysBeforeMonth (month - 3) + yearLength year := by
  unfold daysToMonth yearLength
  interval_cases month <;>
    simp only [Finset.sum_Ico_succ_top, Finset.Ico_self, Finset.sum_empty, Nat.reduceLeDiff,
      daysInMonth, daysBeforeMonth] <;>
    split <;> rfl

theorem toSeconds_eq_sinceEpoch {c : Civil} (valid : c.Valid) (h : 1970 ≤ c.year) :
    c.toSeconds = c.sinceEpoch := by
  obtain ⟨first, last⟩ := valid.month
  have era (y : Nat) : y / 400 * 146097 + daysBeforeYear (y % 400) = daysToMarch y := by
    rw [← daysToMarch_era _ (Nat.mod_lt _ (by decide)), Nat.div_add_mod']
  have year := daysToYear_eq h
  unfold toSeconds sinceEpoch
  by_cases early : c.month ≤ 2
  · simp only [if_pos early, era]
    have month := daysToMonth_early c.year first early
    have days : daysToMarch (c.year - 1) + daysBeforeMonth (c.month + 9) + (c.day - 1) - epochDays =
        daysToYear c.year + daysToMonth c.year c.month + (c.day - 1) := by
      omega
    rw [days]
  · simp only [if_neg early, era]
    have month := daysToMonth_late c.year (by omega) last
    have march := daysToMarch_succ (c.year - 1)
    rw [show c.year - 1 + 1 = c.year by omega] at march
    have days : daysToMarch c.year + daysBeforeMonth (c.month - 3) + (c.day - 1) - epochDays =
        daysToYear c.year + daysToMonth c.year c.month + (c.day - 1) := by
      omega
    rw [days]

/-! The date of a second. -/

/-- A day of an era by its century, four years of it, one of those and the day in it. The years
begin in March, so a leap day is the last one of its year. -/
theorem exists_parts {d : Nat} (h : d < 146097) :
    ∃ c q r e, c ≤ 3 ∧ q ≤ 24 ∧ r ≤ 3 ∧ e ≤ 365 ∧ (e = 365 → r = 3 ∧ (q < 24 ∨ c = 3)) ∧
      d = 36524 * c + 1461 * q + 365 * r + e := by
  obtain ⟨c, d', hc, hd', rfl⟩ : ∃ c d', c ≤ 3 ∧ (d' < 36524 ∨ c = 3 ∧ d' ≤ 36524) ∧
      d = 36524 * c + d' := by
    refine ⟨min (d / 36524) 3, d - 36524 * min (d / 36524) 3, ?_⟩
    omega
  obtain ⟨q, d'', hd'', rfl⟩ : ∃ q d'', d'' < 1461 ∧ d' = 1461 * q + d'' :=
    ⟨d' / 1461, d' % 1461, by omega, by omega⟩
  obtain ⟨r, e, hr, he, rfl⟩ : ∃ r e, r ≤ 3 ∧ (e < 365 ∨ r = 3 ∧ e ≤ 365) ∧ d'' = 365 * r + e := by
    refine ⟨min (d'' / 365) 3, d'' - 365 * min (d'' / 365) 3, ?_⟩
    omega
  exact ⟨c, q, r, e, hc, by omega, hr, by omega, by omega, by omega⟩

theorem daysBeforeYear_parts {c q r : Nat} (hq : q ≤ 24) (hr : r ≤ 3) :
    daysBeforeYear (100 * c + 4 * q + r) = 36524 * c + 1461 * q + 365 * r := by
  unfold daysBeforeYear
  omega

theorem yearOfEra_parts {c q r e : Nat} (hc : c ≤ 3) (hq : q ≤ 24) (hr : r ≤ 3) (he : e ≤ 365)
    (leap : e = 365 → r = 3 ∧ (q < 24 ∨ c = 3)) :
    yearOfEra (36524 * c + 1461 * q + 365 * r + e) = 100 * c + 4 * q + r := by
  generalize whole : 36524 * c + 1461 * q + 365 * r + e = d
  -- 1460 days are four years less the leap day, which is late in the last of them.
  have fours : d / 1460 = 25 * c + q + (if 24 * c + q + 365 * r + e < 1460 then 0 else 1) := by
    split <;> omega
  have hundreds : d / 36524 = c + d / 146096 := by
    interval_cases c <;> omega
  unfold yearOfEra
  rw [fours, hundreds]
  split <;> omega

/-- The month of a day of a year that begins in March, as it is counted from March. -/
def marchMonth (e : Nat) : Nat :=
  (5 * e + 2) / 153

/-- A day is not before its month. -/
theorem daysBeforeMonth_le {e : Nat} (he : e ≤ 365) :
    marchMonth e ≤ 11 ∧ daysBeforeMonth (marchMonth e) ≤ e := by
  unfold daysBeforeMonth marchMonth
  omega

/-- The month in the calendar, counted from January. -/
def calendarMonth (m : Nat) : Nat :=
  if m < 10 then m + 3 else m - 9

/-- The calendar's year of a month in the year `y` that begins in March. -/
def calendarYear (y m : Nat) : Nat :=
  y + (if calendarMonth m ≤ 2 then 1 else 0)

theorem day_le_daysInMonth {era c q r e : Nat} (hq : q ≤ 24) (hr : r ≤ 3) (he : e ≤ 365)
    (leap : e = 365 → r = 3 ∧ (q < 24 ∨ c = 3)) :
    e - daysBeforeMonth (marchMonth e) + 1 ≤
      daysInMonth (calendarYear (era * 400 + (100 * c + 4 * q + r)) (marchMonth e))
        (calendarMonth (marchMonth e)) := by
  obtain ⟨last, -⟩ := daysBeforeMonth_le he
  generalize hm : marchMonth e = m at last
  unfold marchMonth at hm
  by_cases february : m = 11
  · subst february
    change e - 337 + 1 ≤ if isLeap (era * 400 + (100 * c + 4 * q + r) + 1) then 29 else 28
    by_cases latest : e = 365
    · obtain ⟨rfl, century⟩ := leap latest
      rw [if_pos (isLeap_iff.mpr (by omega))]
      omega
    · split <;> omega
  · unfold calendarMonth daysBeforeMonth
    interval_cases m <;>
      simp only [daysInMonth, Nat.reduceLT, Nat.reduceAdd, Nat.reduceSub, if_true, if_false] <;>
      omega

/-- The date of a second by the parts of its day. -/
theorem exists_ofSeconds_eq (s : Nat) :
    ∃ era c q r e, c ≤ 3 ∧ q ≤ 24 ∧ r ≤ 3 ∧ e ≤ 365 ∧ (e = 365 → r = 3 ∧ (q < 24 ∨ c = 3)) ∧
      s / 86400 + epochDays = era * 146097 + (36524 * c + 1461 * q + 365 * r + e) ∧
      ofSeconds s =
        { year := calendarYear (era * 400 + (100 * c + 4 * q + r)) (marchMonth e)
          month := calendarMonth (marchMonth e)
          day := e - daysBeforeMonth (marchMonth e) + 1
          hour := s % 86400 / 3600
          minute := s % 86400 / 60 % 60
          second := s % 86400 % 60 } := by
  obtain ⟨c, q, r, e, hc, hq, hr, he, leap, parts⟩ :=
    exists_parts (Nat.mod_lt (s / 86400 + epochDays) (by decide : 0 < 146097))
  refine ⟨(s / 86400 + epochDays) / 146097, c, q, r, e, hc, hq, hr, he, leap, ?_, ?_⟩
  · rw [← parts, Nat.div_add_mod']
  · have day : 36524 * c + 1461 * q + 365 * r + e - (36524 * c + 1461 * q + 365 * r) = e :=
      Nat.add_sub_cancel_left _ _
    simp only [ofSeconds, parts, yearOfEra_parts hc hq hr he leap, daysBeforeYear_parts hq hr, day]
    rfl

theorem valid_ofSeconds (s : Nat) : (ofSeconds s).Valid := by
  obtain ⟨era, c, q, r, e, hc, hq, hr, he, leap, -, date⟩ := exists_ofSeconds_eq s
  have month := (daysBeforeMonth_le he).1
  rw [date]
  refine
    { month := ?_
      day := ⟨Nat.le_add_left _ _, day_le_daysInMonth hq hr he leap⟩
      hour := ?_
      minute := Nat.mod_lt _ (by decide)
      second := Nat.mod_lt _ (by decide) }
  · simp only [calendarMonth]
    split <;> omega
  · dsimp only
    omega

theorem calendarMonth_early {m : Nat} (h : m < 10) (y : Nat) :
    calendarMonth m = m + 3 ∧ calendarYear y m = y := by
  simp [calendarYear, calendarMonth, h]

theorem calendarMonth_late {m : Nat} (first : 10 ≤ m) (last : m ≤ 11) (y : Nat) :
    calendarMonth m = m - 9 ∧ calendarYear y m = y + 1 := by
  have month : calendarMonth m = m - 9 := if_neg (by omega)
  exact ⟨month, by rw [calendarYear, month, if_pos (by omega)]⟩

theorem le_year_ofSeconds (s : Nat) : 1970 ≤ (ofSeconds s).year := by
  obtain ⟨era, c, q, r, e, hc, hq, hr, he, -, days, date⟩ := exists_ofSeconds_eq s
  obtain ⟨last, before⟩ := daysBeforeMonth_le he
  rw [date]
  dsimp only
  unfold epochDays at days
  by_cases early : marchMonth e < 10
  · rw [(calendarMonth_early early _).2]
    unfold marchMonth at early
    omega
  · rw [(calendarMonth_late (by omega) last _).2]
    omega

theorem toSeconds_ofSeconds (s : Nat) : (ofSeconds s).toSeconds = s := by
  obtain ⟨era, c, q, r, e, hc, hq, hr, he, -, days, date⟩ := exists_ofSeconds_eq s
  obtain ⟨last, before⟩ := daysBeforeMonth_le he
  have within : 100 * c + 4 * q + r < 400 := by omega
  have years := daysBeforeYear_parts (c := c) hq hr
  generalize 100 * c + 4 * q + r = y at *
  have eras : (era * 400 + y) / 400 = era ∧ (era * 400 + y) % 400 = y := by omega
  rw [date]
  generalize marchMonth e = m at *
  -- Counting back takes the year and the month to March again.
  suffices march : (toSeconds
      { year := calendarYear (era * 400 + y) m, month := calendarMonth m,
        day := e - daysBeforeMonth m + 1, hour := s % 86400 / 3600, minute := s % 86400 / 60 % 60,
        second := s % 86400 % 60 }) =
      (era * 146097 + daysBeforeYear y + daysBeforeMonth m + (e - daysBeforeMonth m) - epochDays) *
        86400 + s % 86400 / 3600 * 3600 + s % 86400 / 60 % 60 * 60 + s % 86400 % 60 by
    rw [march, years]
    omega
  unfold toSeconds
  by_cases early : m < 10
  · obtain ⟨month, year⟩ := calendarMonth_early early (era * 400 + y)
    simp only [month, year, show ¬ m + 3 ≤ 2 by omega, if_false, eras, Nat.add_sub_cancel]
  · obtain ⟨month, year⟩ := calendarMonth_late (by omega) last (era * 400 + y)
    simp only [month, year, show m - 9 ≤ 2 by omega, if_true, eras, Nat.add_sub_cancel,
      Nat.sub_add_cancel (show 9 ≤ m by omega)]

/-- Every second since 1970 has a date of the calendar, from which it is counted back. -/
theorem sinceEpoch_ofSeconds (s : Nat) : (ofSeconds s).sinceEpoch = s := by
  rw [← toSeconds_eq_sinceEpoch (valid_ofSeconds s) (le_year_ofSeconds s), toSeconds_ofSeconds]

end ChequeTeller.Time.Civil
