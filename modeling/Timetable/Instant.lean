import Timetable.Date
import Timetable.TimeOfDay
import Timetable.Window

/-!
Instants: a date and a time of day on a wall clock, with the distance of that clock from universal
time if it is known. Windows look at the wall clock alone.
-/
namespace Timetable

/-- The distance of a wall clock from universal time. -/
structure Offset where
  /-- Seconds ahead of universal time. -/
  seconds : Int
  /-- The clock is universal time by name, not only by distance. -/
  universal : Bool
  deriving DecidableEq, Repr

/-- A reading of a wall clock on a date. -/
structure Instant where
  date : Date
  time : TimeOfDay
  offset : Option Offset
  deriving DecidableEq, Repr

namespace Offset

def utc : Offset := ⟨0, true⟩

/-- The distance is short of a day. Others can be told, but not counted with. -/
def isShort (o : Offset) : Bool := decide (o.seconds.natAbs < 86400)

/-- Sign, hours and minutes, and seconds unless they are zero. -/
def text (o : Offset) : List Char :=
  let n := o.seconds.natAbs
  let tail := if n % 60 = 0 then [] else ':' :: Text.padded 2 (n % 60)
  (if o.seconds < 0 then '-' else '+') ::
    Text.padded 2 (n / 3600) ++ ':' :: Text.padded 2 (n / 60 % 60) ++ tail

end Offset

namespace Instant

def weekday (i : Instant) : Weekday := i.date.weekday

/-- Date and time with a character between them, and the distance from universal time. -/
def stamp (between : Char) (i : Instant) : List Char :=
  i.date.text ++ between :: i.time.fullText ++ (i.offset.map Offset.text).getD []

def spacedText (i : Instant) : List Char := i.stamp ' '

/-- The form with a `T` between date and time; universal time by name is written `Z`. -/
def isoText (i : Instant) : List Char :=
  match i.offset with
  | some o =>
      if o.universal then i.date.text ++ 'T' :: i.time.fullText ++ ['Z'] else i.stamp 'T'
  | none => i.stamp 'T'

/-- The long form takes the distance from universal time, which has to be short of a day for that. -/
def hasIsoText (i : Instant) : Bool := i.offset.all Offset.isShort

def dateTimeText (i : Instant) : List Char :=
  i.date.shortText ++ ' ' :: i.time.clockText

/-- The instant some microseconds after the start of 1970, on the clock of universal time. -/
def ofEpoch? (microseconds : Int) : Option Instant :=
  let ticks := microseconds + 719163 * ticksPerDay
  (Date.ofOrdinal? (ticks / ticksPerDay).toNat).map fun d =>
    ⟨d, ⟨(ticks % ticksPerDay).toNat, by simp only [ticksPerDay]; omega⟩, some .utc⟩

end Instant

/-- A window is open at an instant: it is open on the weekday of the date at the time of day. -/
def Window.contains (w : Window) (i : Instant) : Bool :=
  w.isOpen i.weekday i.time

/-- The instants at which a window is open, in the given order. -/
def Window.select (w : Window) (is : List Instant) : List Instant :=
  is.filter w.contains

end Timetable
