import Timetable.Instant
import Timetable.Zone.Table

/-!
Time zones: how far a wall clock is from universal time. A reading of a wall clock may name no
moment, when the clock was put forward over it, or two, when the clock was put back; the first kind
of reading is moved forward, and of two moments the later one is taken.
-/
namespace Timetable

/-- A time zone: the changes of its distance from universal time. -/
structure Zone where
  name : String
  first : Int
  changes : List Zone.Change
  tail : Option Zone.YearRule
  deriving DecidableEq, Repr

namespace Zone

def utc : Zone := ⟨"UTC", 0, [], none⟩

def ofEntry (e : Entry) : Zone := ⟨e.name, e.first, e.history, e.tail⟩

/-- Why a name stands for no zone. -/
inductive NameError where
  | unknown (name : String)
  /-- The name is a path with parts that a shorter path leaves out. -/
  | notNormal (name : String)
  | absolute (name : String)
  | outside (name : String)
  deriving DecidableEq, Repr

def NameError.message : NameError → String
  | unknown name => name
  | notNormal name => "ZoneInfo keys must be normalized relative paths, got: " ++ name
  | absolute name => "ZoneInfo keys may not be absolute paths, got: " ++ name
  | outside name => "ZoneInfo keys must refer to subdirectories of TZPATH, got: " ++ name

/-- The parts of a path without the parts that lead nowhere; `kept` holds the parts so far, the last
first. -/
def normalParts (kept : List (List Char)) : List (List Char) → List (List Char)
  | [] => kept.reverse
  | part :: parts =>
      if part = [] ∨ part = ['.'] then normalParts kept parts
      else if part = ['.', '.'] then
        match kept with
        | [] => normalParts [part] parts
        | last :: rest =>
            if last = ['.', '.'] then normalParts (part :: kept) parts else normalParts rest parts
      else normalParts (part :: kept) parts

def normalPath (cs : List Char) : List Char :=
  match normalParts [] (Text.splitAt '/' cs) with
  | [] => ['.']
  | parts => Text.joinWith ['/'] parts

/-- The zone with a name. Universal time is found in any letter case, other names as they are
written. -/
def find (name : String) : Except NameError Zone :=
  let cs := name.toList
  if Text.lower name == "utc" then .ok utc
  else if cs.head? = some '/' then .error (.absolute name)
  else
    let normal := normalPath cs
    if normal.length ≠ cs.length then .error (.notNormal name)
    else if normal = ['.'] ∨ normal.take 2 = ['.', '.'] then .error (.outside name)
    else match entry? name with
      | some e => .ok (ofEntry e)
      | none => .error (.unknown name)

def isName (name : String) : Bool :=
  match find name with
  | .ok _ => true
  | .error _ => false

/-- Days from day 1 of the calendar to the first day of 1970. -/
def epoch : Int := 719163

/-- Seconds since the start of 1970 that a wall clock shows. -/
def wallSeconds (d : Date) (t : TimeOfDay) : Int :=
  (d.ordinal - epoch) * 86400 + (t.ticks / 1000000 : Nat)

def DayRule.ordinal (r : DayRule) (year : Nat) : Int :=
  let first := daysBeforeYear year + daysBeforeMonth year r.month + 1
  let day := 1 + (r.weekday + 7 - first % 7) % 7 + 7 * (r.week - 1)
  let day := if day > daysInMonth year r.month then day - 7 else day
  (first + day - 1 : Nat)

/-- The moment of a day of every year, in seconds on the clock that it is told by. -/
def DayRule.seconds (r : DayRule) (year : Nat) : Int :=
  (r.ordinal year - epoch) * 86400 + r.time

/-- Between two moments of a year, or outside them if the year ends in between. -/
def between (start stop now : Int) : Bool :=
  if start < stop then decide (start ≤ now) && decide (now < stop)
  else decide (now < stop) || decide (start ≤ now)

/-- The distance that a yearly rule gives for a wall clock. When the clock is put back, `later`
decides between the two moments of a reading; when it is put forward, the earlier distance counts
unless `later` is set. -/
def YearRule.wallOffset (r : YearRule) (later : Bool) (year : Nat) (wall : Int) : Int :=
  let ahead := r.summer - r.standard
  let start := r.start.seconds year
  let stop := r.stop.seconds year
  let summer :=
    if later == decide (0 ≤ ahead) then between start (stop - ahead) wall
    else between (start + ahead) stop wall
  if summer then r.summer else r.standard

def YearRule.offsetAt (r : YearRule) (year : Nat) (moment : Int) : Int :=
  if between (r.start.seconds year - r.standard) (r.stop.seconds year - r.summer) moment then
    r.summer
  else r.standard

/-- The last change at or before `now`, each change taking place when `place` says; the flag tells
that `now` is after all changes. -/
def lastChange (place : Int → Change → Int) (now offset : Int) : List Change → Int × Bool
  | [] => (offset, true)
  | c :: cs =>
      let here := place offset c
      if now < here then (offset, false)
      else if cs.isEmpty then (c.offset, decide (here < now))
      else lastChange place now c.offset cs

/-- When a change takes place on the wall clock: both readings that the clock skips or repeats are
compared with the earlier or the later end. -/
def wallPlace (later : Bool) (offset : Int) (c : Change) : Int :=
  c.moment + if later then min offset c.offset else max offset c.offset

/-- The distance of a wall clock that shows the given date and seconds. -/
def wallOffset (z : Zone) (later : Bool) (year : Nat) (wall : Int) : Int :=
  let (offset, after) := lastChange (wallPlace later) wall z.first z.changes
  match z.tail with
  | some r => if after then r.wallOffset later year wall else offset
  | none => offset

def offsetAt (z : Zone) (year : Nat) (moment : Int) : Int :=
  let (offset, after) := lastChange (fun _ c => c.moment) moment z.first z.changes
  match z.tail with
  | some r => if after then r.offsetAt year moment else offset
  | none => offset

/-- A date and a time moved by some seconds, if the result is a date. -/
def shift? (d : Date) (t : TimeOfDay) (seconds : Int) : Option (Date × TimeOfDay) :=
  let ticks : Int := (d.ordinal : Int) * ticksPerDay + t.ticks + seconds * 1000000
  let day := ticks / ticksPerDay
  if day < 1 then none
  else (Date.ofOrdinal? day.toNat).map fun d =>
    (d, ⟨(ticks % ticksPerDay).toNat, by simp only [ticksPerDay]; omega⟩)

def offset (z : Zone) (seconds : Int) : Offset :=
  ⟨seconds, z.name == "UTC"⟩

/-- The instant at which the wall clock of a zone shows a date and a time. A reading that the clock
skips is moved forward by as much as the clock was put forward; of two moments with the same reading
the later one is taken. There is no instant if the move leaves the calendar. -/
def place? (z : Zone) (d : Date) (t : TimeOfDay) : Option Instant :=
  let wall := wallSeconds d t
  let before := z.wallOffset false d.year wall
  let after := z.wallOffset true d.year wall
  if before < after then
    (shift? d t (after - before)).map fun (d, t) =>
      ⟨d, t, some (z.offset (z.wallOffset false d.year (wallSeconds d t)))⟩
  else some ⟨d, t, some (z.offset after)⟩

/-- What the wall clock of a zone shows when the clock of universal time shows a date and a time. -/
def fromUniversal? (z : Zone) (d : Date) (t : TimeOfDay) : Option Instant :=
  let seconds := z.offsetAt d.year (wallSeconds d t)
  (shift? d t seconds).map fun (d, t) => ⟨d, t, some (z.offset seconds)⟩

end Zone

end Timetable
