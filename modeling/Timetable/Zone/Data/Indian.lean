import Timetable.Zone.Entry

/-!
Time zones of the area Indian.
-/
namespace Timetable.Zone

def entriesIndian : List Entry := [
  ⟨"Indian/Chagos", 17380, [18000, 21600],
    ["U9VlUS0Wmvjsm1"],
    none⟩,
  ⟨"Indian/Maldives", 17640, [18000],
    ["VjByEO0"],
    none⟩,
  ⟨"Indian/Mauritius", 13800, [14400, 18000],
    ["U9VmMO0WO1Ur01WOst8m0X90vRW1X9pe_G0"],
    none⟩]

end Timetable.Zone
