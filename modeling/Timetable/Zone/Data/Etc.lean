import Timetable.Zone.Entry

/-!
Time zones at a fixed distance from universal time.
-/
namespace Timetable.Zone

def entriesEtc : List Entry := [
  ⟨"Etc/GMT", 0, [],
    [],
    none⟩,
  ⟨"Etc/GMT+1", -3600, [],
    [],
    none⟩,
  ⟨"Etc/GMT+10", -36000, [],
    [],
    none⟩,
  ⟨"Etc/GMT+11", -39600, [],
    [],
    none⟩,
  ⟨"Etc/GMT+12", -43200, [],
    [],
    none⟩,
  ⟨"Etc/GMT+2", -7200, [],
    [],
    none⟩,
  ⟨"Etc/GMT+3", -10800, [],
    [],
    none⟩,
  ⟨"Etc/GMT+4", -14400, [],
    [],
    none⟩,
  ⟨"Etc/GMT+5", -18000, [],
    [],
    none⟩,
  ⟨"Etc/GMT+6", -21600, [],
    [],
    none⟩,
  ⟨"Etc/GMT+7", -25200, [],
    [],
    none⟩,
  ⟨"Etc/GMT+8", -28800, [],
    [],
    none⟩,
  ⟨"Etc/GMT+9", -32400, [],
    [],
    none⟩,
  ⟨"Etc/GMT-1", 3600, [],
    [],
    none⟩,
  ⟨"Etc/GMT-10", 36000, [],
    [],
    none⟩,
  ⟨"Etc/GMT-11", 39600, [],
    [],
    none⟩,
  ⟨"Etc/GMT-12", 43200, [],
    [],
    none⟩,
  ⟨"Etc/GMT-13", 46800, [],
    [],
    none⟩,
  ⟨"Etc/GMT-14", 50400, [],
    [],
    none⟩,
  ⟨"Etc/GMT-2", 7200, [],
    [],
    none⟩,
  ⟨"Etc/GMT-3", 10800, [],
    [],
    none⟩,
  ⟨"Etc/GMT-4", 14400, [],
    [],
    none⟩,
  ⟨"Etc/GMT-5", 18000, [],
    [],
    none⟩,
  ⟨"Etc/GMT-6", 21600, [],
    [],
    none⟩,
  ⟨"Etc/GMT-7", 25200, [],
    [],
    none⟩,
  ⟨"Etc/GMT-8", 28800, [],
    [],
    none⟩,
  ⟨"Etc/GMT-9", 32400, [],
    [],
    none⟩,
  ⟨"Etc/UTC", 0, [],
    [],
    none⟩,
  ⟨"Factory", 0, [],
    [],
    none⟩]

end Timetable.Zone
