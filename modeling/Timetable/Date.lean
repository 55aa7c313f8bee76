import Timetable.Text.Decimal
import Timetable.Weekday

/-!
Dates of the Gregorian calendar, carried back to the year 1. A date is counted by its ordinal: the
first day of the year 1 is day 1 and a Monday, and the weekday of a date follows from the count.
-/
namespace Timetable

/-- Leap years: every fourth year, of the full centuries every fourth. -/
def isLeap (year : Nat) : Bool :=
  year % 4 == 0 && (year % 100 != 0 || year % 400 == 0)

def daysInMonth (year month : Nat) : Nat :=
  match month with
  | 2 => if isLeap year then 29 else 28
  | 4 | 6 | 9 | 11 => 30
  | _ => 31

def daysBeforeMonth (year : Nat) : Nat → Nat
  | 0 => 0
  | 1 => 0
  | month + 1 => daysBeforeMonth year month + daysInMonth year month

def daysBeforeYear (year : Nat) : Nat :=
  let y := year - 1
  365 * y + y / 4 - y / 100 + y / 400

def daysInYear (year : Nat) : Nat :=
  if isLeap year then 366 else 365

/-- A date of the years 1 to 9999. -/
structure Date where
  year : Nat
  month : Nat
  day : Nat
  year_range : 1 ≤ year ∧ year ≤ 9999
  month_range : 1 ≤ month ∧ month ≤ 12
  day_range : 1 ≤ day ∧ day ≤ daysInMonth year month
  deriving DecidableEq, Repr

/-- Why three numbers are not a date. -/
inductive DateError where
  | year (year : Int)
  | month
  | day
  deriving DecidableEq, Repr

def DateError.message : DateError → String
  | year y => "year " ++ String.ofList (Text.decimalInt y) ++ " is out of range"
  | month => "month must be in 1..12"
  | day => "day is out of range for month"

namespace Date

/-- The date with a year, a month and a day; the year is checked first, the day last. -/
def make (year month day : Nat) : Except DateError Date :=
  if hy : 1 ≤ year ∧ year ≤ 9999 then
    if hm : 1 ≤ month ∧ month ≤ 12 then
      if hd : 1 ≤ day ∧ day ≤ daysInMonth year month then .ok ⟨year, month, day, hy, hm, hd⟩
      else .error .day
    else .error .month
  else .error (.year year)

/-- The date with a year, a month and a day, if there is one. -/
def make? (year month day : Nat) : Option Date :=
  (make year month day).toOption

theorem make_fields (d : Date) : make d.year d.month d.day = .ok d := by
  simp [make, d.year_range, d.month_range, d.day_range]

def ordinal (d : Date) : Nat :=
  daysBeforeYear d.year + daysBeforeMonth d.year d.month + d.day

def weekday (d : Date) : Weekday :=
  Weekday.ofCount (d.ordinal - 1)

/-- Finds the month that a day of the year is in: the month and the day in it. -/
def monthOf (year : Nat) : Nat → Nat → Nat → Nat × Nat
  | 0, month, day => (month, day)
  | fuel + 1, month, day =>
      if day ≤ daysInMonth year month then (month, day)
      else monthOf year fuel (month + 1) (day - daysInMonth year month)

/-- The date of the given day of a year, counted from 1. -/
def ofYearDay? (year day : Nat) : Option Date :=
  if 1 ≤ day ∧ day ≤ daysInYear year then
    let (month, d) := monthOf year 11 1 day
    make? year month d
  else none

/-- The date with the given day count. The count is taken apart into spans of 400, 100, 4 years and
one year; a last year of four or of 400 has one day more. -/
def ofOrdinal? (n : Nat) : Option Date :=
  if n = 0 then none
  else
    let n := n - 1
    let n400 := n / 146097
    let r := n % 146097
    let n100 := min (r / 36524) 3
    let r := r - 36524 * n100
    let n4 := r / 1461
    let r := r % 1461
    let n1 := min (r / 365) 3
    let r := r - 365 * n1
    ofYearDay? (400 * n400 + 100 * n100 + 4 * n4 + n1 + 1) (r + 1)

/-- Year, month and day with dashes, the year with four digits. -/
def text (d : Date) : List Char :=
  Text.padded 4 d.year ++ '-' :: Text.padded 2 d.month ++ '-' :: Text.padded 2 d.day

/-- Year, month and day with dashes, the year with as many digits as it needs. -/
def shortText (d : Date) : List Char :=
  Text.decimal d.year ++ '-' :: Text.padded 2 d.month ++ '-' :: Text.padded 2 d.day

end Date

end Timetable
