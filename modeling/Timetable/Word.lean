/-!
Whole numbers of a fixed count of bits, one of which is the sign: from minus a bound up to below it.
-/
namespace Timetable.Word

def bound32 : Int := 0x80000000

def bound64 : Int := 0x8000000000000000

def fits (bound n : Int) : Bool := decide (-bound ≤ n) && decide (n < bound)

theorem fits_iff (bound n : Int) : fits bound n = true ↔ -bound ≤ n ∧ n < bound := by
  simp [fits]

end Timetable.Word
