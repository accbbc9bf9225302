/-!
# Days and times of day

The Gregorian calendar carried on in both directions, with a year zero, over the years that a
store keeps.  A `Date` and a `Time` are valid by construction: the reader checks the numbers
once and everything after it can rely on them.

A time of day may fall into a leap second, written `:60`.
-/

namespace BoundSql.Calendar

/-! ## Dates -/

/-- The first year that can be kept. -/
def firstYear : Int := -262143

/-- The last year that can be kept. -/
def lastYear : Int := 262142

/-- Every fourth year is a leap year, except full centuries that are no multiple of 400. -/
def isLeapYear (year : Int) : Bool :=
  year % 4 == 0 && (year % 100 != 0 || year % 400 == 0)

/-- The length of a month; zero for a number that is no month. -/
def daysInMonth (year : Int) : Nat → Nat
  | 2 => if isLeapYear year then 29 else 28
  | 4 | 6 | 9 | 11 => 30
  | 1 | 3 | 5 | 7 | 8 | 10 | 12 => 31
  | _ => 0

/-- These numbers name a day of a year that can be kept. -/
def IsDate (year : Int) (month day : Nat) : Prop :=
  firstYear ≤ year ∧ year ≤ lastYear ∧ 1 ≤ day ∧ day ≤ daysInMonth year month

/-- Whether there is such a day can be computed. -/
instance (year : Int) (month day : Nat) : Decidable (IsDate year month day) :=
  inferInstanceAs (Decidable (_ ∧ _))

/-- A day of the calendar. -/
structure Date where
  year : Int
  month : Nat
  day : Nat
  isDate : IsDate year month day
  deriving DecidableEq

/-- The day with these numbers, if there is one. -/
def Date.ofNumbers? (year : Int) (month day : Nat) : Option Date :=
  if h : IsDate year month day then some ⟨year, month, day, h⟩ else none

/-- The day after, unless this is the last day that can be kept. -/
def Date.next? (d : Date) : Option Date :=
  if d.day < daysInMonth d.year d.month then Date.ofNumbers? d.year d.month (d.day + 1)
  else if d.month < 12 then Date.ofNumbers? d.year (d.month + 1) 1
  else Date.ofNumbers? (d.year + 1) 1 1

/-- The day before, unless this is the first day that can be kept. -/
def Date.previous? (d : Date) : Option Date :=
  if 1 < d.day then Date.ofNumbers? d.year d.month (d.day - 1)
  else if 1 < d.month then Date.ofNumbers? d.year (d.month - 1) (daysInMonth d.year (d.month - 1))
  else Date.ofNumbers? (d.year - 1) 12 31

/-! ## Times -/

/-- A time of day, to the nanosecond. -/
structure Time where
  hour : Nat
  minute : Nat
  second : Nat
  nano : Nat
  isTime : hour < 24 ∧ minute < 60 ∧ second ≤ 60 ∧ nano < 1000000000
  deriving DecidableEq

/-- The time with these numbers, if there is one. -/
def Time.ofNumbers? (hour minute second nano : Nat) : Option Time :=
  if h : hour < 24 ∧ minute < 60 ∧ second ≤ 60 ∧ nano < 1000000000 then
    some ⟨hour, minute, second, nano, h⟩
  else none

/-! ## Both together -/

/-- A day and a time of day. -/
structure DateTime where
  date : Date
  time : Time
  deriving DecidableEq

/-- Move by less than a day: `minutes` is subtracted, and the seconds stay as they are. -/
def DateTime.minusMinutes? (t : DateTime) (minutes : Int) : Option DateTime := do
  let moved : Int := 60 * t.time.hour + t.time.minute - minutes
  let date ← if moved < 0 then t.date.previous?
    else if 1440 ≤ moved then t.date.next?
    else some t.date
  let ofDay := (moved % 1440).toNat
  let time ← Time.ofNumbers? (ofDay / 60) (ofDay % 60) t.time.second t.time.nano
  return ⟨date, time⟩

/-- A point in time, kept as the day and time at offset zero. -/
structure Instant where
  utc : DateTime
  deriving DecidableEq

/-- The point in time at which clocks `minutes` to the east show `shown`. -/
def Instant.ofLocal? (shown : DateTime) (minutes : Int) : Option Instant :=
  (shown.minusMinutes? minutes).map Instant.mk

end BoundSql.Calendar
