import Timetable.Value

/-!
Windows from values of any kind. The pairing of the times is checked first, then the weekday, then
the kinds of the times, then their order. Main definitions: `Window.ofValues` makes a window of three
values, and `Window.fields` gives the three values of a window.
-/
namespace Timetable

/-- Why values do not make a window. -/
inductive FieldError where
  | weekday (shown : String)
  | time (kind shown : String)
  | window (e : WindowError)
  /-- The value that does not fit holds a number with too many digits to be shown. -/
  | longNumber
  deriving DecidableEq, Repr

namespace FieldError

def message : FieldError → String
  | weekday shown => "Invalid weekday: " ++ shown
  | time kind shown => "Expected a time of day, got " ++ kind ++ ": " ++ shown
  | window e => e.message
  | longNumber => Value.longNumberMessage

/-- The error is one about windows, and not one that comes up while such an error is put into text. -/
def isValidation : FieldError → Bool
  | longNumber => false
  | _ => true

/-- An error that shows a value. -/
def showing (error : String → FieldError) (v : Value) : FieldError :=
  match v.shown? with
  | some shown => error shown
  | none => longNumber

end FieldError

namespace Window

def isAbsent : Value → Bool
  | .null => true
  | _ => false

def weekdayField : Value → Except FieldError (Option Weekday)
  | .null => .ok none
  | v => match v.weekday? with
      | some d => .ok (some d)
      | none => .error (.showing .weekday v)

def timeField : Value → Except FieldError TimeOfDay
  | .clock t _ => .ok t
  | v => .error (.showing (.time v.kind) v)

def ofValues (weekday start stop : Value) : Except FieldError Window :=
  if isAbsent start != isAbsent stop then .error (.window .unpaired)
  else match weekdayField weekday with
    | .error e => .error e
    | .ok d =>
        if isAbsent start then (make d none none).mapError .window
        else match timeField start with
          | .error e => .error e
          | .ok s => match timeField stop with
            | .error e => .error e
            | .ok t => (make d (some s) (some t)).mapError .window

def ofWeekday (weekday : Value) : Except FieldError Window :=
  ofValues weekday .null .null

def ofTimes (start stop : Value) : Except FieldError Window :=
  ofValues .null start stop

def fields (w : Window) : Value × Value × Value :=
  (match w.weekday with
    | some d => .int d.index
    | none => .null,
   match w.span with
    | some s => .clock s.start .long
    | none => .null,
   match w.span with
    | some s => .clock s.stop .long
    | none => .null)

end Window

end Timetable
