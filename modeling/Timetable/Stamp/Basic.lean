import Timetable.Zone

/-!
Stamps: what a text says about time, before it is placed in a time zone. A stamp is a date, a date
with a time, a time without a date, or a period.
-/
namespace Timetable

/-- A length of time, told in the units of the calendar and of the clock. -/
structure Period where
  years : Nat
  months : Nat
  days : Nat
  seconds : Nat
  deriving DecidableEq, Repr

/-- What a text says about time. -/
inductive Stamp where
  | date (d : Date)
  | moment (d : Date) (t : TimeOfDay) (offset : Option Offset)
  | clock (t : TimeOfDay)
  | period (p : Period)
  deriving DecidableEq, Repr

/-- What a whole text says about time: the current time, a stamp, or an interval between two. -/
inductive Reading where
  | now
  | stamp (s : Stamp)
  | interval (start stop : Stamp)
  deriving DecidableEq, Repr

/-- Why a text stands for no instant. -/
inductive StampError where
  | unreadable (text : String)
  | notInstant (text : String)
  | date (e : DateError)
  | clock (part : TimeOfDay.Part)
  | noMinute
  /-- The distance from universal time is a day or more. -/
  | offset
  | zone (e : Zone.NameError)
  | outOfCalendar
  /-- A period is added to, or taken from, a date without a time. -/
  | periodAtDate (backwards : Bool)
  /-- A period is added to, or taken from, a time without a date. -/
  | periodAtClock (backwards : Bool)
  /-- An interval has a period in the place of its end. -/
  | periodAtPeriod
  /-- One end of an interval has a time and a date, the other has not. -/
  | mixedInterval
  /-- An interval has a time without a date at one end. -/
  | clockInterval
  deriving DecidableEq, Repr

def StampError.message : StampError → String
  | unreadable text => "Unable to parse string [" ++ text ++ "]"
  | notInstant text => "Not a date and time: '" ++ text ++ "'"
  | date e => e.message
  | clock part => (TimeOfDay.ReadError.outOfRange part).message
  | noMinute =>
      "int() argument must be a string, a bytes-like object or a real number, not 'NoneType'"
  | offset =>
      "offset must be a timedelta strictly between -timedelta(hours=24) and timedelta(hours=24)."
  | zone e => e.message
  | outOfCalendar => "date value out of range"
  | periodAtDate backwards =>
      "Date." ++ (if backwards then "subtract" else "add") ++
        "() got an unexpected keyword argument 'hours'"
  | periodAtClock backwards =>
      "Time." ++ (if backwards then "subtract" else "add") ++
        "() got an unexpected keyword argument 'years'"
  | periodAtPeriod => "instance() only accepts datetime objects."
  | mixedInterval => "Both start and end of an Interval must have the same type"
  | clockInterval => "'Time' object has no attribute 'year'"

namespace Period

/-- The period is told in units of the clock alone. -/
def isTime (p : Period) : Bool := p.years == 0 && p.months == 0 && p.days == 0

/-- A date and a time moved by a period, forwards or backwards. Years and months are counted first,
and a day that the month lacks becomes its last day. -/
def move (p : Period) (backwards : Bool) (d : Date) (t : TimeOfDay) :
    Except StampError (Date × TimeOfDay) :=
  let sign : Int := if backwards then -1 else 1
  let months : Int := (d.year : Int) * 12 + (d.month - 1) + sign * (p.years * 12 + p.months)
  let year := months / 12
  let month := (months % 12).toNat + 1
  if year < 1 ∨ 9999 < year then .error (.date (.year year))
  else match Date.make? year.toNat month (min d.day (daysInMonth year.toNat month)) with
    | none => .error .outOfCalendar
    | some d => match Zone.shift? d t (sign * (p.days * 86400 + p.seconds)) with
        | none => .error .outOfCalendar
        | some r => .ok r

end Period

end Timetable
