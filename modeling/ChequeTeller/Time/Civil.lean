/-!
Civil dates and times of day in the proleptic Gregorian calendar, counted from
1970-01-01T00:00:00Z. `ofSeconds` and `toSeconds` go from instants to dates and back.
-/

namespace ChequeTeller.Time

structure Civil where
  year : Nat
  month : Nat
  day : Nat
  hour : Nat
  minute : Nat
  second : Nat
  deriving DecidableEq, Repr

namespace Civil

/-- Days from 0000-03-01 to 1970-01-01. -/
def epochDays : Nat := 719468

/-- Years that begin in March put the leap day last, and repeat every 400 years, which are
146097 days. `yearOfEra` is the year within such an era, from the day within it. -/
def yearOfEra (dayOfEra : Nat) : Nat :=
  (dayOfEra - dayOfEra / 1460 + dayOfEra / 36524 - dayOfEra / 146096) / 365

/-- Days from the first of March of an era's first year to that of its year `y`. -/
def daysBeforeYear (y : Nat) : Nat :=
  365 * y + y / 4 - y / 100

/-- Days from the first of March to the first of the month `m` counted from March. -/
def daysBeforeMonth (m : Nat) : Nat :=
  (153 * m + 2) / 5

def ofSeconds (seconds : Nat) : Civil :=
  let days := seconds / 86400 + epochDays
  let time := seconds % 86400
  let era := days / 146097
  let dayOfEra := days % 146097
  let y := yearOfEra dayOfEra
  let dayOfYear := dayOfEra - daysBeforeYear y
  let m := (5 * dayOfYear + 2) / 153
  let month := if m < 10 then m + 3 else m - 9
  { year := era * 400 + y + (if month ≤ 2 then 1 else 0)
    month
    day := dayOfYear - daysBeforeMonth m + 1
    hour := time / 3600
    minute := time / 60 % 60
    second := time % 60 }

/-- The seconds since 1970 of a date not before that year. -/
def toSeconds (c : Civil) : Nat :=
  let y := if c.month ≤ 2 then c.year - 1 else c.year
  let m := if c.month ≤ 2 then c.month + 9 else c.month - 3
  let days := y / 400 * 146097 + daysBeforeYear (y % 400) + daysBeforeMonth m + (c.day - 1)
  (days - epochDays) * 86400 + c.hour * 3600 + c.minute * 60 + c.second

def isLeap (year : Nat) : Bool :=
  year % 4 = 0 && (year % 100 ≠ 0 || year % 400 = 0)

def daysInMonth (year month : Nat) : Nat :=
  match month with
  | 2 => if isLeap year then 29 else 28
  | 4 | 6 | 9 | 11 => 30
  | _ => 31

end Civil

end ChequeTeller.Time
