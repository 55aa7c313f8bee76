/-!
Decimal text of whole numbers, with a least width where a format asks for one.
-/
namespace Timetable.Text

/-- The decimal digits of a number, the last one first. `fuel` bounds their count. -/
def decimalRev : Nat → Nat → List Char
  | 0, _ => []
  | fuel + 1, n =>
      Nat.digitChar (n % 10) :: (if n < 10 then [] else decimalRev fuel (n / 10))

def decimal (n : Nat) : List Char :=
  (decimalRev (n + 1) n).reverse

/-- The last `width` decimal digits of a number. -/
def padded : Nat → Nat → List Char
  | 0, _ => []
  | width + 1, n => padded width (n / 10) ++ [Nat.digitChar (n % 10)]

theorem padded_length (width n : Nat) : (padded width n).length = width := by
  induction width generalizing n with
  | zero => rfl
  | succ width ih => simp [padded, ih]

/-- A number with leading zeros up to `width` digits; a longer number is not cut. -/
def paddedFull (width n : Nat) : List Char :=
  if (decimal n).length ≤ width then padded width n else decimal n

def decimalInt (n : Int) : List Char :=
  match n with
  | .ofNat k => decimal k
  | .negSucc k => '-' :: decimal (k + 1)

end Timetable.Text
