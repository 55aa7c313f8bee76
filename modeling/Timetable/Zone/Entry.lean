/-!
Entries of the table of time zones. A zone is the list of moments at which its distance from
universal time changes, and a yearly rule for the time after the last of them. The table writes the
moments in base 64.
-/
namespace Timetable.Zone

/-- A day of every year: the `week`-th given weekday of a month, the fifth being the last. Weekdays
count from Sunday, and `time` is in seconds after midnight. -/
structure DayRule where
  month : Nat
  week : Nat
  weekday : Nat
  time : Int
  deriving DecidableEq, Repr

/-- A yearly change between two distances from universal time. `start` is told by the clock of the
standard time, `stop` by the clock of the summer time. -/
structure YearRule where
  standard : Int
  summer : Int
  start : DayRule
  stop : DayRule
  deriving DecidableEq, Repr

/-- The seconds before 1970 from which the table counts moments. -/
def momentBase : Int := 0x800000000

/-- A zone as the table writes it. Each change takes seven digits: six for the moment, in seconds
counted from `momentBase` before 1970, and one for the place of the new offset in `offsets`. -/
structure Entry where
  name : String
  first : Int
  offsets : List Int
  changes : List String
  tail : Option YearRule
  deriving DecidableEq, Repr

/-- A moment in seconds since 1970, and the distance from universal time from then on. -/
structure Change where
  moment : Int
  offset : Int
  deriving DecidableEq, Repr

def digit64 (c : Char) : Nat :=
  let n := c.toNat
  if c.isDigit then n - 48
  else if c.isUpper then n - 55
  else if c.isLower then n - 61
  else if c == '-' then 62
  else 63

def number64 (cs : List Char) : Nat :=
  cs.foldl (fun n c => 64 * n + digit64 c) 0

/-- The changes that a text of groups of seven digits describes. -/
def changesOf (offsets : List Int) : List Char → List Change
  | a :: b :: c :: d :: e :: f :: g :: rest =>
      ⟨(number64 [a, b, c, d, e, f] : Int) - momentBase, offsets.getD (digit64 g) 0⟩ ::
        changesOf offsets rest
  | _ => []

def Entry.history (e : Entry) : List Change :=
  changesOf e.offsets (e.changes.flatMap String.toList)

end Timetable.Zone
