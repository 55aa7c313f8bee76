import Timetable.Value
import Timetable.WindowSet

/-!
Windows from expressions that have to be accepted: a rejection is an error that names the expression.
Values of any kind are allowed where an expression is expected, and what is no text is an error or
is put into text first.
-/
namespace Timetable

/-- Why values do not stand for windows. -/
inductive InputError where
  | expression (e : Expression.Fault)
  | rejected (v : Value)
  | rejectedItems (vs : List Value)
  | noList
  /-- There is one text in the place of a list of expressions. -/
  | singleText
  /-- What stands in the place of a list of expressions has no items. -/
  | notIterable (kind : String)
  /-- A value holds a number with too many digits to be put into an expression. -/
  | longNumber

def InputError.message : InputError → String
  | expression e => e.message
  | rejected v => "Invalid weekday/time range expression: " ++ v.display
  | rejectedItems vs =>
      "Invalid weekday/time range expression(s): " ++ Text.join ", " (vs.map Value.display)
  | noList => "texts must be a sequence of strings, not None"
  | singleText => "texts must be a sequence of strings, not a single string"
  | notIterable kind => "'" ++ kind ++ "' object is not iterable"
  | longNumber => Value.longNumberMessage

namespace Expression

/-- Reads an expression from a value; the absent value counts as a blank text. -/
def readValue : Value → Reading
  | .null => .rejected .blank
  | .text s => read s
  | v => .faulty (.notText v.fullKind)

end Expression

/-- Reads a weekday from a value; values that count as absent name none. -/
def Weekday.readValue (v : Value) : Except Expression.Fault (Option Weekday) :=
  if v.isFalsy then .ok none
  else match v with
    | .text s => (Weekday.read s).mapError .weekday
    | v => .error (.notText v.fullKind)

/-- Reads a time of day from a value; values that count as absent name none. -/
def TimeOfDay.readValue (v : Value) : Except Expression.Fault (Option TimeOfDay) :=
  if v.isFalsy then .ok none
  else match v with
    | .text s => (TimeOfDay.read s).mapError .time
    | v => .error (.notText v.fullKind)

namespace Window

def ofExpression (v : Value) : Except InputError Window :=
  match Expression.readValue v with
  | .accepted w => .ok w
  | .rejected _ => .error (.rejected v)
  | .faulty e => .error (.expression e)

/-- The window of a weekday and two times, each given on its own. -/
def ofStrings (weekday start stop : Value) : Except InputError Window :=
  match weekday.plain?, start.plain?, stop.plain? with
  | some weekday, some start, some stop =>
      ofExpression (.text (weekday ++ " " ++ start ++ "-" ++ stop))
  | _, _, _ => .error .longNumber

/-- The window of two times, each given on its own. -/
def ofTimeStrings (start stop : Value) : Except InputError Window :=
  match start.plain?, stop.plain? with
  | some start, some stop => ofExpression (.text (start ++ "-" ++ stop))
  | _, _ => .error .longNumber

end Window

/-- The items of a value that has items. A mapping has its keys, a byte string its bytes. -/
def Value.items? : Value → Option (List Value)
  | .list items => some items
  | .tuple items => some items
  | .set items => some items
  | .map entries => some (entries.map (·.1))
  | .bytes bs => some (bs.map fun b => .int b.toNat)
  | .text s => some (s.toList.map fun c => .text (String.ofList [c]))
  | _ => none

namespace WindowSet

def expressionsOf : Value → Except InputError (List Value)
  | .null => .error .noList
  | .text _ => .error .singleText
  | v => match v.items? with
      | some items => .ok items
      | none => .error (.notIterable v.fullKind)

/-- Reads a list of expressions up to the first that is not accepted. -/
def readValues (v : Value) : Except InputError (Reading Value) :=
  match expressionsOf v with
  | .error e => .error e
  | .ok items => match readItems Expression.readValue items with
      | .faulty e => .error (.expression e)
      | r => .ok r

/-- The set that a list of expressions stands for; if some are not accepted, the error names all of
those. -/
def ofExpressions (v : Value) : Except InputError WindowSet :=
  match expressionsOf v with
  | .error e => .error e
  | .ok items => match readItems Expression.readValue items with
      | .accepted s => .ok s
      | .faulty e => .error (.expression e)
      | .rejected _ _ => match rejectedItems Expression.readValue items with
          | .error e => .error (.expression e)
          | .ok rejected => .error (.rejectedItems rejected)

end WindowSet

end Timetable
