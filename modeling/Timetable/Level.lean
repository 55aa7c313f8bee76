import Timetable.Text.Case
import Timetable.Value

/-!
Levels of reports. A level has a name and a rank; reports below the chosen rank are not shown.
-/
namespace Timetable.Level

/-- The names of the levels in upper case, with their ranks. -/
def ranks : List (String × Nat) :=
  [("CRITICAL", 50), ("FATAL", 50), ("ERROR", 40), ("WARN", 30), ("WARNING", 30), ("INFO", 20),
    ("DEBUG", 10), ("NOTSET", 0)]

def ofName? (name : String) : Option Nat :=
  (ranks.find? fun l => l.1 == name).map (·.2)

/-- The name of the level that is chosen if none is asked for. -/
def usual : String := "WARNING"

/-- Why a value stands for no level. -/
inductive Error where
  /-- No level has the name, which is given in upper case. -/
  | unknown (name : String)
  | notText (kind : String)
  deriving DecidableEq, Repr

def Error.message : Error → String
  | unknown name => "Unknown level: " ++ Text.quote name
  | notText kind => "'" ++ kind ++ "' object has no attribute 'upper'"

/-- The rank of the level that a value names, in any letter case. -/
def read : Value → Except Error Nat
  | .text s => match ofName? (Text.upper s) with
      | some rank => .ok rank
      | none => .error (.unknown (Text.upper s))
  | v => .error (.notText v.fullKind)

end Timetable.Level
