import Timetable.Stamp.Iso
import Timetable.Stamp.Loose

/-!
Instants from text. A text is read without looking at any time zone, and what it says is then placed:
a wall clock without a distance from universal time is one of the given zone. Main definitions:
`Reading.ofText` and `Reading.instant`.
-/
namespace Timetable

namespace Reading

/-- What a text says about time. The standard forms are tried before the loose ones. -/
def ofText (text : String) : Except StampError Reading :=
  let cs := text.toList
  if text == "now" then .ok .now
  else match Stamp.Iso.readStamp cs with
    | some s => .ok (.stamp s)
    | none => match Stamp.Iso.readInterval cs with
        | some (a, b) => .ok (.interval a b)
        | none => match Stamp.Loose.readStamp cs with
            | .error e => .error e
            | .ok (some s) => .ok (.stamp s)
            | .ok none => .error (.unreadable text)

/-- A date and a time placed on the clock of a zone, unless their distance from universal time is
given. -/
def placeWall (zone : String) (d : Date) (t : TimeOfDay) : Option Offset → Except StampError Instant
  | some o => .ok ⟨d, t, some o⟩
  | none =>
      match Zone.find zone with
      | .error e => .error (.zone e)
      | .ok z => match z.place? d t with
          | some i => .ok i
          | none => .error .outOfCalendar

/-- The current time on the clock of a zone; `now` is on the clock of universal time, which is also the
zone without a name. -/
def current (zone : String) (now : Instant) : Except StampError Instant :=
  match if zone == "" then .ok Zone.utc else Zone.find zone with
  | .error e => .error (.zone e)
  | .ok z => match z.fromUniversal? now.date now.time with
      | some i => .ok i
      | none => .error .outOfCalendar

/-- An instant is counted with on the clock of universal time, which its distance has to allow. -/
def checkCounted (i : Instant) : Except StampError Unit :=
  match i.offset with
  | none => .ok ()
  | some o =>
      if !o.isShort then .error .offset
      else if (Zone.shift? i.date i.time (-o.seconds)).isNone then .error .outOfCalendar
      else .ok ()

/-- The time between two instants is counted. On two clocks only the distances of these are looked at. -/
def checkBetween (onOneClock : Bool) (i j : Instant) : Except StampError Unit :=
  if onOneClock then do
    checkCounted i
    checkCounted j
  else if i.hasIsoText && j.hasIsoText then .ok ()
  else .error .offset

/-- The ends of an interval are placed one after the other, and then have to be of one kind. -/
def checkInterval (zone : String) : Stamp → Stamp → Except StampError Unit
  | .period p, b => endWith true p b
  | a, .period p => endWith false p a
  | .moment d t o, .moment e u p => do
      let i ← placeWall zone d t o
      let j ← placeWall zone e u p
      checkBetween (o == p) i j
  | .moment d t o, _ => do
      let _ ← placeWall zone d t o
      .error .mixedInterval
  | _, .moment d t o => do
      let _ ← placeWall zone d t o
      .error .mixedInterval
  | .date _, .date _ => .ok ()
  | _, _ => .error .clockInterval
where
  endWith (backwards : Bool) (p : Period) : Stamp → Except StampError Unit
    | .moment d t o => do
        let i ← placeWall zone d t o
        -- Hours, minutes and seconds alone are counted on the clock of universal time.
        if p.isTime then checkCounted i
        let (d, t) ← p.move backwards i.date i.time
        checkBetween true i (← placeWall zone d t o)
    | .date _ => .error (.periodAtDate backwards)
    | .clock _ => .error (.periodAtClock backwards)
    | .period _ => .error .periodAtPeriod

/-- The date and time that a stamp shows on a wall clock, if it shows any; a time without a date is
one of today. -/
def wall? (today : Date) : Stamp → Option (Date × TimeOfDay × Option Offset)
  | .date d => some (d, .midnight, none)
  | .moment d t o => some (d, t, o)
  | .clock t => some (today, t, none)
  | .period _ => none

def instant (text zone : String) (now : Instant) : Reading → Except StampError Instant
  | .now => current zone now
  | .stamp s => match wall? now.date s with
      | some (d, t, o) => placeWall zone d t o
      | none => .error (.notInstant text)
  | .interval a b => match checkInterval zone a b with
      | .error e => .error e
      | .ok () => .error (.notInstant text)

end Reading

/-- The instant that a text stands for, on the clock of the named zone. -/
def Instant.read (text zone : String) (now : Instant) : Except StampError Instant :=
  match Reading.ofText text with
  | .error e => .error e
  | .ok r => r.instant text zone now

end Timetable
