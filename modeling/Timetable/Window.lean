import Timetable.TimeOfDay
import Timetable.Weekday

/-!
Windows: parts of the week that come back every week. A window asks for a weekday, for a span of
the day, for both, or for nothing; the window that asks for nothing is never open. A span includes
its start and excludes its end.
-/
namespace Timetable

/-- A part of the day, from `start` up to but not including `stop`. -/
structure Span where
  start : TimeOfDay
  stop : TimeOfDay
  start_lt_stop : start < stop
  deriving DecidableEq, Repr

def Span.contains (s : Span) (t : TimeOfDay) : Bool :=
  decide (s.start ≤ t) && decide (t < s.stop)

theorem Span.contains_iff (s : Span) (t : TimeOfDay) :
    s.contains t = true ↔ s.start ≤ t ∧ t < s.stop := by
  simp [Span.contains]

/-- A recurring window: an optional weekday and an optional span of the day. -/
structure Window where
  weekday : Option Weekday
  span : Option Span
  deriving DecidableEq, Repr

/-- Why times do not make a window. -/
inductive WindowError where
  | unpaired
  | order (start stop : TimeOfDay)
  deriving DecidableEq, Repr

def WindowError.message : WindowError → String
  | unpaired => "start_time and end_time must both be set or both be None"
  | order start stop =>
      "Start time " ++ String.ofList start.clockText ++ " must be before end time " ++
        String.ofList stop.clockText

namespace Window

def empty : Window := ⟨none, none⟩

def hasTimes (w : Window) : Bool := w.span.isSome

def isEmpty (w : Window) : Bool := w.weekday.isNone && w.span.isNone

/-- The window with the given fields; times come in pairs, the start before the end. -/
def make (weekday : Option Weekday) : Option TimeOfDay → Option TimeOfDay → Except WindowError Window
  | none, none => .ok ⟨weekday, none⟩
  | some start, some stop =>
      if h : start < stop then .ok ⟨weekday, some ⟨start, stop, h⟩⟩
      else .error (.order start stop)
  | _, _ => .error .unpaired

def isOpen (w : Window) (d : Weekday) (t : TimeOfDay) : Bool :=
  !w.isEmpty && w.weekday.all (· == d) && w.span.all (·.contains t)

theorem isOpen_iff (w : Window) (d : Weekday) (t : TimeOfDay) :
    w.isOpen d t = true ↔
      w ≠ empty ∧ (∀ d', w.weekday = some d' → d' = d) ∧
        ∀ s, w.span = some s → s.start ≤ t ∧ t < s.stop := by
  rcases w with ⟨_ | d', _ | s⟩ <;> simp [isOpen, isEmpty, empty, Span.contains_iff]

/-- The written form: the full name of the weekday, then the span with seconds. -/
def text (w : Window) : List Char :=
  let day := w.weekday.map Weekday.capitalName
  let times := w.span.map fun s => s.start.clockText ++ '-' :: s.stop.clockText
  match day, times with
  | none, none => []
  | some d, none => d
  | none, some t => t
  | some d, some t => d ++ ' ' :: t

def render (w : Window) : String :=
  String.ofList w.text

end Window

end Timetable
