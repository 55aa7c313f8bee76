import Timetable.Zone.Alias
import Timetable.Zone.Data.Africa
import Timetable.Zone.Data.America
import Timetable.Zone.Data.Antarctica
import Timetable.Zone.Data.Asia
import Timetable.Zone.Data.Atlantic
import Timetable.Zone.Data.Australia
import Timetable.Zone.Data.Etc
import Timetable.Zone.Data.Europe
import Timetable.Zone.Data.Indian
import Timetable.Zone.Data.Pacific

/-!
The table of all time zones.
-/
namespace Timetable.Zone

def entries : List Entry :=
  entriesEurope ++ entriesAmerica ++ entriesAsia ++ entriesAfrica ++ entriesPacific ++
    entriesAustralia ++ entriesAtlantic ++ entriesIndian ++ entriesAntarctica ++ entriesEtc

/-- The entry with a name, which may be another name of a zone. -/
def entry? (name : String) : Option Entry :=
  let name := match aliases.find? fun a => a.1 == name with
    | some a => a.2
    | none => name
  entries.find? fun e => e.name == name

end Timetable.Zone
