/-!
# Dates and times of day

The Gregorian calendar, extended to all years, and clock times that may show a leap second.

* `Date` — a day, by year, month and day of the month.
* `Date.ofMonthDay?`, `Date.ofOrdinal?`, `Date.ofIsoWeek?`, `Date.ofWeek?` — the day that numbers
  of several kinds name, if there is one.
* `Date.dayNumber` — days since the first of January 1970.
* `Clock` — a time of day.
* `Moment` — both together, and its seconds since 1970.
-/

namespace Connector.Calendar

/-- **A day.** -/
structure Date where
  year : Int
  month : Nat
  day : Nat
  deriving DecidableEq

/-- The years that dates may have. -/
def isYear (year : Int) : Bool := -262143 ≤ year && year ≤ 262142

/-- Whether a year has 366 days. -/
def isLeap (year : Int) : Bool := year % 4 == 0 && (year % 100 != 0 || year % 400 == 0)

/-- The days of a month. -/
def daysInMonth (year : Int) (month : Nat) : Nat :=
  match month with
  | 2 => if isLeap year then 29 else 28
  | 4 | 6 | 9 | 11 => 30
  | _ => 31

/-- The days of a year. -/
def daysInYear (year : Int) : Nat := if isLeap year then 366 else 365

/-- The days of a year before a month. -/
def daysBeforeMonth (year : Int) (month : Nat) : Nat :=
  ((List.range (month - 1)).map fun m => daysInMonth year (m + 1)).foldl (· + ·) 0

/-- The days from the start of the year zero to the start of another. -/
def daysBeforeYear (year : Int) : Int :=
  let y := year - 1
  365 * year + y / 4 - y / 100 + y / 400 + 1

namespace Date

/-- The day of a month, if the month has it. -/
def ofMonthDay? (year : Int) (month day : Nat) : Option Date :=
  if isYear year ∧ 1 ≤ month ∧ month ≤ 12 ∧ 1 ≤ day ∧ day ≤ daysInMonth year month then
    some ⟨year, month, day⟩
  else none

/-- The number of a day in its year, from one on. -/
def ordinal (d : Date) : Nat := daysBeforeMonth d.year d.month + d.day

/-- The month that a day of the year falls into, searched from a month on. -/
def monthOf (year : Int) (month : Nat) (left : Nat) : Nat → Nat × Nat
  | 0 => (month, left)
  | fuel + 1 =>
    let days := daysInMonth year month
    if left ≤ days then (month, left) else monthOf year (month + 1) (left - days) fuel

/-- The day of a year, if the year has it. -/
def ofOrdinal? (year : Int) (ordinal : Nat) : Option Date :=
  if isYear year ∧ 1 ≤ ordinal ∧ ordinal ≤ daysInYear year then
    let (month, day) := monthOf year 1 ordinal 12
    some ⟨year, month, day⟩
  else none

/-- **Days since the first of January 1970.** -/
def dayNumber (d : Date) : Int :=
  daysBeforeYear d.year + d.ordinal - 1 - 719528

/-- The year that a day number falls into; the guess from the mean length of a year is off by one
at most. -/
def yearOfDay (n : Int) : Int :=
  let days := n + 719528
  let guess := days * 400 / 146097
  if days < daysBeforeYear guess then guess - 1
  else if daysBeforeYear (guess + 1) ≤ days then guess + 1
  else guess

/-- The day of a day number, if its year is one. -/
def ofDayNumber? (n : Int) : Option Date :=
  let year := yearOfDay n
  ofOrdinal? year (n + 719528 - daysBeforeYear year + 1).toNat

/-- The day of the week, from Monday as zero. -/
def weekday (d : Date) : Nat := ((d.dayNumber + 3) % 7).toNat

/-- The days from one day of the week to another. -/
def daysSince (weekday start : Nat) : Nat := (weekday + 7 - start) % 7

/-- The number of a week in its year, where weeks begin with `start` and the first of them is
number one. -/
def weekFrom (start : Nat) (d : Date) : Nat := (d.ordinal + 6 - daysSince d.weekday start) / 7

/-- The number of weeks of an ISO year: one with a Thursday at either end has 53. -/
def isoWeeks (year : Int) : Nat :=
  let first := (((daysBeforeYear year - 719528) + 3) % 7).toNat
  if first = 3 ∨ (first = 2 ∧ isLeap year) then 53 else 52

/-- **The ISO week**: its year and number.  The first week of a year is the one with its first
Thursday. -/
def isoWeek (d : Date) : Int × Nat :=
  let n : Int := ((d.ordinal : Int) - (d.weekday + 1 : Nat) + 10) / 7
  if n < 1 then (d.year - 1, isoWeeks (d.year - 1))
  else if isoWeeks d.year < n then (d.year + 1, 1)
  else (d.year, n.toNat)

/-- The day of an ISO week, if the year has the week. -/
def ofIsoWeek? (year : Int) (week weekday : Nat) : Option Date :=
  if isYear year ∧ 1 ≤ week ∧ week ≤ isoWeeks year then
    let fourth := daysBeforeYear year - 719528 + 3
    let monday := fourth - (fourth + 3) % 7
    ofDayNumber? (monday + 7 * ((week : Int) - 1) + weekday)
  else none

/-- The day of a week that begins with `start`, if the year has it. -/
def ofWeek? (year : Int) (week weekday start : Nat) : Option Date := do
  let first ← ofOrdinal? year 1
  let firstStart := 1 + daysSince start first.weekday
  let n : Int := (firstStart : Int) + ((week : Int) - 1) * 7 + daysSince weekday start
  if week ≤ 53 ∧ 0 < n then ofOrdinal? year n.toNat else none

/-- The quarter of the year. -/
def quarter (d : Date) : Nat := (d.month - 1) / 3 + 1

end Date

/-- **A time of day.**  In a leap second, which only the last second of a minute has, the
nanoseconds go on beyond a thousand million. -/
structure Clock where
  hour : Nat
  minute : Nat
  second : Nat
  nanosecond : Nat
  deriving DecidableEq

/-- The seconds since midnight, a leap second counting as the one before. -/
def Clock.seconds (c : Clock) : Nat := c.hour * 3600 + c.minute * 60 + c.second

/-- The nanoseconds within the second that is shown. -/
def Clock.fraction (c : Clock) : Nat := c.nanosecond % 1000000000

/-- The second that is shown, which may be sixty. -/
def Clock.shownSecond (c : Clock) : Nat := c.second + c.nanosecond / 1000000000

/-- Whether it is afternoon, and the hour on a dial. -/
def Clock.dial (c : Clock) : Bool × Nat :=
  (12 ≤ c.hour, if c.hour % 12 = 0 then 12 else c.hour % 12)

/-- The time of day after some seconds of a day. -/
def Clock.ofSeconds (n : Nat) : Clock := ⟨n / 3600 % 24, n / 60 % 60, n % 60, 0⟩

/-- **A day and a time of day.** -/
structure Moment where
  date : Date
  clock : Clock
  deriving DecidableEq

/-- Seconds since 1970, without regard to offsets. -/
def Moment.seconds (m : Moment) : Int := m.date.dayNumber * 86400 + m.clock.seconds

/-- The moment of some seconds since 1970, if its year is one. -/
def Moment.ofSeconds? (n : Int) : Option Moment :=
  (Date.ofDayNumber? (n / 86400)).map fun date => ⟨date, Clock.ofSeconds (n % 86400).toNat⟩

end Connector.Calendar
