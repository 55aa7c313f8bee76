import Timetable.Value

/-!
What can go wrong when a document is read, and the message for it.
-/
namespace Timetable.Yaml

/-- What can go wrong when a document is read. -/
inductive Error where
  /-- The text is no document of one value that can be built. -/
  | invalid
  | escape
  | wideEscape
  | notInteger (base : Nat) (text : String)
  | tooLong (digits : Nat)
  | notFloat (text : String)
  | emptyNumber
  /-- A truth value is neither true nor false. -/
  | notTruth (text : String)
  | notTimestamp
  /-- The numbers of a date are no date of the calendar. -/
  | date (e : DateError)
  | hour
  | minute
  | second
  /-- A distance from universal time, in seconds, is a day or more. -/
  | offset (seconds : Int)
  deriving DecidableEq, Repr

namespace Error

/-- The message for an error. Texts in it are quoted, and cut to 200 characters where they may be long. -/
def message : Error → String
  | invalid => "Invalid YAML"
  | escape => "chr() arg not in range(0x110000)"
  | wideEscape => "Python int too large to convert to C int"
  | notInteger base text =>
      "invalid literal for int() with base " ++ String.ofList (Text.decimal base) ++ ": " ++
        String.ofList ((Text.quoted text.toList).take 200)
  | tooLong digits => Text.NumeralError.message (.tooLong digits)
  | notFloat text => "could not convert string to float: " ++ Text.quote text
  | emptyNumber => "string index out of range"
  | notTruth text => Text.quote text
  | notTimestamp => "'NoneType' object has no attribute 'groupdict'"
  | date e => e.message
  | hour => "hour must be in 0..23"
  | minute => "minute must be in 0..59"
  | second => "second must be in 0..59"
  | offset seconds =>
      "offset must be a timedelta strictly between -timedelta(hours=24) and timedelta(hours=24), not " ++
        Value.durationDisplay seconds ++ "."

end Error

end Timetable.Yaml
