import ChequeTeller.Proofs.Time.Calendar
import Mathlib.Algebra.Order.BigOperators.Group.Finset
import Mathlib.Data.List.Lex

/-!
The order of dates. Of two dates of the calendar the earlier one is less in the first field, from the
year to the second, in which they differ. Dates before 1970 are left apart.
-/

namespace ChequeTeller.Time.Civil

/-- The fields from the longest time to the shortest. -/
def fields (c : Civil) : List Nat :=
  [c.year, c.month, c.day, c.hour, c.minute, c.second]

theorem daysToYear_mono {year year' : Nat} (h : year ≤ year') :
    daysToYear year ≤ daysToYear year' :=
  Finset.sum_le_sum_of_subset (Finset.Ico_subset_Ico_right h)

theorem daysToMonth_mono (year : Nat) {month month' : Nat} (h : month ≤ month') :
    daysToMonth year month ≤ daysToMonth year month' :=
  Finset.sum_le_sum_of_subset (Finset.Ico_subset_Ico_right h)

theorem daysToYear_succ {year : Nat} (h : 1970 ≤ year) :
    daysToYear (year + 1) = daysToYear year + yearLength year :=
  Finset.sum_Ico_succ_top h _

theorem daysToMonth_succ (year : Nat) {month : Nat} (h : 1 ≤ month) :
    daysToMonth year (month + 1) = daysToMonth year month + daysInMonth year month :=
  Finset.sum_Ico_succ_top h _

theorem daysToMonth_thirteen (year : Nat) : daysToMonth year 13 = yearLength year := by
  have december := @daysToMonth_late year 12 (by decide) (by decide)
  rw [daysToMonth_succ year (by decide)]
  simp only [daysInMonth, daysBeforeMonth] at december ⊢
  omega

/-- Days from the first of January to the date. -/
def dayOfYear (c : Civil) : Nat :=
  daysToMonth c.year c.month + (c.day - 1)

/-- Days from the first of January 1970 to the date. -/
def dayNumber (c : Civil) : Nat :=
  daysToYear c.year + c.dayOfYear

theorem sinceEpoch_eq_dayNumber (c : Civil) :
    c.sinceEpoch = c.dayNumber * 86400 + c.hour * 3600 + c.minute * 60 + c.second := by
  rw [sinceEpoch, dayNumber, dayOfYear, Nat.add_assoc (daysToYear _)]

namespace Valid

variable {c c' : Civil}

theorem dayOfYear_lt (valid : c.Valid) : c.dayOfYear < daysToMonth c.year (c.month + 1) := by
  obtain ⟨first, last⟩ := valid.day
  rw [daysToMonth_succ c.year valid.month.1, dayOfYear]
  omega

theorem dayOfYear_lt_yearLength (valid : c.Valid) : c.dayOfYear < yearLength c.year := by
  rw [← daysToMonth_thirteen]
  exact Nat.lt_of_lt_of_le valid.dayOfYear_lt (daysToMonth_mono _ (Nat.succ_le_succ valid.month.2))

theorem dayNumber_lt_of_year (valid : c.Valid) (h : 1970 ≤ c.year) (less : c.year < c'.year) :
    c.dayNumber < c'.dayNumber :=
  calc
    c.dayNumber < daysToYear c.year + yearLength c.year :=
      Nat.add_lt_add_left valid.dayOfYear_lt_yearLength _
    _ = daysToYear (c.year + 1) := (daysToYear_succ h).symm
    _ ≤ daysToYear c'.year := daysToYear_mono less
    _ ≤ c'.dayNumber := Nat.le_add_right _ _

theorem dayNumber_lt_of_month (valid : c.Valid) (year : c.year = c'.year)
    (less : c.month < c'.month) : c.dayNumber < c'.dayNumber := by
  have days : c.dayOfYear < c'.dayOfYear :=
    calc
      c.dayOfYear < daysToMonth c.year (c.month + 1) := valid.dayOfYear_lt
      _ ≤ daysToMonth c.year c'.month := daysToMonth_mono _ less
      _ = daysToMonth c'.year c'.month := by rw [year]
      _ ≤ c'.dayOfYear := Nat.le_add_right _ _
  rw [dayNumber, dayNumber, year]
  exact Nat.add_lt_add_left days _

theorem dayNumber_lt_of_day (valid : c.Valid) (year : c.year = c'.year)
    (month : c.month = c'.month) (less : c.day < c'.day) : c.dayNumber < c'.dayNumber := by
  have first := valid.day.1
  rw [dayNumber, dayNumber, dayOfYear, dayOfYear, year, month]
  omega

theorem sinceEpoch_lt_of_dayNumber (valid : c.Valid) (less : c.dayNumber < c'.dayNumber) :
    c.sinceEpoch < c'.sinceEpoch := by
  obtain ⟨-, -, hour, minute, second⟩ := valid
  rw [sinceEpoch_eq_dayNumber, sinceEpoch_eq_dayNumber]
  omega

theorem sinceEpoch_lt_of_fields (valid : c.Valid) (h : 1970 ≤ c.year)
    (less : c.fields < c'.fields) : c.sinceEpoch < c'.sinceEpoch := by
  simp only [fields, List.cons_lt_cons_iff, List.lt_irrefl, and_false, or_false] at less
  obtain year | ⟨year, month | ⟨month, day | ⟨day, time⟩⟩⟩ := less
  · exact valid.sinceEpoch_lt_of_dayNumber (valid.dayNumber_lt_of_year h year)
  · exact valid.sinceEpoch_lt_of_dayNumber (valid.dayNumber_lt_of_month year month)
  · exact valid.sinceEpoch_lt_of_dayNumber (valid.dayNumber_lt_of_day year month day)
  · have same : c.dayNumber = c'.dayNumber := by
      rw [dayNumber, dayNumber, dayOfYear, dayOfYear, year, month, day]
    obtain ⟨-, -, hour, minute, second⟩ := valid
    rw [sinceEpoch_eq_dayNumber, sinceEpoch_eq_dayNumber, same]
    omega

/-- Dates sort by their fields as they do by the seconds since 1970. -/
theorem fields_lt_iff (valid : c.Valid) (valid' : c'.Valid) (h : 1970 ≤ c.year)
    (h' : 1970 ≤ c'.year) : c.fields < c'.fields ↔ c.sinceEpoch < c'.sinceEpoch := by
  refine ⟨valid.sinceEpoch_lt_of_fields h, ?_⟩
  intro less
  rcases lt_trichotomy c.fields c'.fields with earlier | same | later
  · exact earlier
  · have date : c = c' := by
      cases c
      cases c'
      simpa only [fields, List.cons.injEq, and_true, mk.injEq] using same
    exact absurd less (date ▸ Nat.lt_irrefl _)
  · exact absurd less (Nat.lt_asymm (valid'.sinceEpoch_lt_of_fields h' later))

end Valid

theorem fields_ofSeconds_lt_iff {s s' : Nat} :
    (ofSeconds s).fields < (ofSeconds s').fields ↔ s < s' := by
  rw [(valid_ofSeconds s).fields_lt_iff (valid_ofSeconds s') (le_year_ofSeconds s)
    (le_year_ofSeconds s'), sinceEpoch_ofSeconds, sinceEpoch_ofSeconds]

end ChequeTeller.Time.Civil
