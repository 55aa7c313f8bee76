import Timetable.Value
import Timetable.Expression

/-!
Notices: what the program reports about its work, apart from its answers.
-/
namespace Timetable

/-- A report about one step of the work. -/
inductive Notice where
  | rejected (expression : Value) (r : Expression.Rejection)
  | loaded (schedules : Nat) (path : String)
  | checked (name : String) (instant : Instant) (active : Bool)

/-- What the reading of an expression reports: why the expression is rejected, if it is. -/
def Notice.ofReading (expression : Value) : Expression.Reading → List Notice
  | .rejected r => [.rejected expression r]
  | _ => []

/-- The line that stands for a notice: its level, its source and what happened. -/
def Notice.line : Notice → String
  | rejected v r =>
      "DEBUG timefilters.domain.parser: Rejected range expression " ++ v.display ++ ": " ++ r.reason
  | loaded n path =>
      "INFO timefilters.config: Loaded " ++ String.ofList (Text.decimal n) ++
        " schedule(s) from " ++ path
  | checked name instant active =>
      "DEBUG timefilters.services.schedule_checker: Schedule " ++ name ++ " at " ++
        String.ofList instant.spacedText ++ ": " ++ (if active then "active" else "inactive")

end Timetable
