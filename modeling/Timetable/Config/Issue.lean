import Timetable.Value
import Timetable.Expression

/-!
Issues: what is wrong with the data of a configuration, and where. A report lists all issues of the
data in order.
-/
namespace Timetable

/-- One step on the way to a part of the data. -/
inductive Place where
  | name (s : String)
  | number (n : Int)
  deriving DecidableEq, Repr

/-- Why a value of the right kind is refused. -/
inductive Refusal where
  | zone (name : String)
  | logLevel (name : String)
  /-- A schedule has the name of an earlier one, letter case aside. -/
  | duplicate (name : String)
  /-- Some schedules have expressions that are not accepted. -/
  | expressions (problems : List (String × List String))
  | fault (e : Expression.Fault)
  deriving DecidableEq, Repr

/-- The kinds of issues. -/
inductive IssueKind where
  | notText
  | brokenText
  | notMapping
  | notList
  | refused (r : Refusal)
  deriving DecidableEq, Repr

/-- An issue: its kind, the way to the value, and the value. -/
structure Issue where
  kind : IssueKind
  path : List Place
  value : Value

def problemText (p : String × List String) : String :=
  p.1 ++ ": " ++ Text.join ", " (p.2.map Text.quote)

def Refusal.message : Refusal → String
  | zone name => "Unknown timezone: " ++ name
  | logLevel name => "Unknown log level: " ++ name
  | duplicate name => "Duplicate schedule name detected: " ++ name
  | expressions problems =>
      "Invalid range expression(s) in schedules - " ++ Text.join "; " (problems.map problemText)
  | fault e => e.message

namespace IssueKind

def name : IssueKind → String
  | notText => "string_type"
  | brokenText => "string_unicode"
  | notMapping => "dict_type"
  | notList => "list_type"
  | refused _ => "value_error"

def message : IssueKind → String
  | notText => "Input should be a valid string"
  | brokenText => "Input should be a valid string, unable to parse raw data as a unicode string"
  | notMapping => "Input should be a valid dictionary"
  | notList => "Input should be a valid list"
  | refused r => "Value error, " ++ r.message

end IssueKind

/-- A step as a report shows it: a name with a point in it stands between grave accents. -/
def Place.text : Place → String
  | name s => if s.toList.contains '.' then "`" ++ s ++ "`" else s
  | number n => String.ofList (Text.decimalInt n)

def byteCount : List Char → Nat
  | [] => 0
  | c :: cs => c.utf8Size + byteCount cs

/-- The longest front of a text with at most `room` bytes. -/
def frontWithin : Nat → List Char → List Char
  | _, [] => []
  | room, c :: cs => if c.utf8Size ≤ room then c :: frontWithin (room - c.utf8Size) cs else []

/-- A text of more than 50 bytes without its middle. -/
def shortened (cs : List Char) : List Char :=
  if byteCount cs ≤ 50 then cs
  else frontWithin 25 cs ++ ['.', '.', '.'] ++ (frontWithin 24 cs.reverse).reverse

def Issue.text (i : Issue) : String :=
  Text.join "." (i.path.map Place.text) ++ "\n  " ++ i.kind.message ++ " [type=" ++ i.kind.name ++
    ", input_value=" ++ String.ofList (shortened i.value.reported.toList) ++
    ", input_type=" ++ i.value.kind ++ "]"

def reportText (issues : List Issue) : String :=
  String.ofList (Text.decimal issues.length) ++
    (if issues.length = 1 then " validation error" else " validation errors") ++
    " for AppConfig\n" ++ Text.join "\n" (issues.map Issue.text)

end Timetable
