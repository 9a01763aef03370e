/-!
# TreeSift.Time.Calendar

The proleptic Gregorian calendar, by day numbers.

1. Day `0` is 1970-01-01, a Thursday; day numbers run in both directions.
2. `dayNumber` and `civil` are inverse on valid dates; every other count (ordinals, weeks) goes
   through day numbers.
-/

namespace TreeSift

namespace Calendar

/-- Whether the year has 366 days. -/
def isLeap (year : Int) : Bool :=
  year % 4 == 0 && (year % 100 != 0 || year % 400 == 0)

/-- The number of days of the year. -/
def yearLength (year : Int) : Nat := if isLeap year then 366 else 365

/-- The number of days of a month. -/
def monthLength (year : Int) (month : Nat) : Nat :=
  match month with
  | 2 => if isLeap year then 29 else 28
  | 4 | 6 | 9 | 11 => 30
  | _ => 31

/-- The number of days of the year before the month. -/
def daysBeforeMonth (year : Int) (month : Nat) : Nat :=
  (List.range (month - 1)).foldl (fun n i => n + monthLength year (i + 1)) 0

/-- The day number of January 1st. -/
def yearStart (year : Int) : Int :=
  let y := year - 1
  365 * y + y / 4 - y / 100 + y / 400 - 719162

/-- The day number of a civil date. -/
def dayNumber (year : Int) (month day : Nat) : Int :=
  yearStart year + (daysBeforeMonth year month : Int) + (day : Int) - 1

/-- Whether year, month and day name a date. -/
def isValid (year : Int) (month day : Nat) : Bool :=
  decide (1 ≤ month) && decide (month ≤ 12) && decide (1 ≤ day) &&
    decide (day ≤ monthLength year month)

/-- The year of a day and the number of days of that year before it. -/
def yearAndDay (n : Int) : Int × Nat :=
  let d := n + 719162
  let cycles := d / 146097
  let r := d % 146097
  let centuries := min (r / 36524) 3
  let r := r - centuries * 36524
  let fours := r / 1461
  let r := r % 1461
  let ones := min (r / 365) 3
  (400 * cycles + 100 * centuries + 4 * fours + ones + 1, (r - 365 * ones).toNat)

/-- The month and day of the month, given the number of days of the year before it. -/
def monthAndDay (year : Int) (months month before : Nat) : Nat × Nat :=
  match months with
  | 0 => (month, before + 1)
  | left + 1 =>
    if before < monthLength year month then (month, before + 1)
    else monthAndDay year left (month + 1) (before - monthLength year month)

/-- The civil date of a day number: year, month, day. -/
def civil (n : Int) : Int × Nat × Nat :=
  let (year, before) := yearAndDay n
  (year, monthAndDay year 11 1 before)

/-- Days since the last Monday. -/
def weekday (n : Int) : Nat := ((n + 3) % 7).toNat

/-- The Monday of the first ISO week: the week that holds January 4th. -/
def isoYearStart (year : Int) : Int :=
  let n := dayNumber year 1 4
  n - (weekday n : Int)

/-- The number of ISO weeks of the year. -/
def isoWeeks (year : Int) : Nat := ((isoYearStart (year + 1) - isoYearStart year) / 7).toNat

/-- The years this library can name. -/
def inRange (year : Int) : Bool := decide (-9999 ≤ year) && decide (year ≤ 9999)

end Calendar

end TreeSift
