import Timetable.Text.Blank
import Timetable.Text.Digit
import Timetable.Text.Quoted

/-!
Whole numbers in text. A numeral may have blanks around it, one sign, the digits of any script, and
single underscores between digits.
-/
namespace Timetable.Text

def Numeral.digitLimit : Nat := 4300

/-- Why a text is not read as a whole number. -/
inductive NumeralError where
  | malformed (text : String)
  | tooLong (digits : Nat)
  deriving DecidableEq, Repr

/-- The message for a text that is not a whole number; the text is shown cut to 200 characters. -/
def NumeralError.message : NumeralError → String
  | .malformed text =>
      "invalid literal for int() with base 10: " ++
        String.ofList ((quoted text.toList).take 200)
  | .tooLong digits =>
      "Exceeds the limit (" ++ toString Numeral.digitLimit ++
        " digits) for integer string conversion: value has " ++ toString digits ++
        " digits; use sys.set_int_max_str_digits() to increase the limit"

namespace Numeral

/-- The blanks that may surround a numeral: all but the information separators. -/
def isPad (c : Char) : Bool :=
  isBlank c && !(Nat.ble 0x1c c.toNat && Nat.ble c.toNat 0x1f)

/-- One optional sign; `true` stands for a minus. -/
def sign : List Char → Bool × List Char
  | '+' :: cs => (false, cs)
  | '-' :: cs => (true, cs)
  | cs => (false, cs)

def isBody (c : Char) : Bool :=
  c = '_' || (digit? c).isSome

/-- The digits of a body in which every underscore stands between two digits. `afterDigit` says
whether the character before is a digit. -/
def digits (afterDigit : Bool) : List Char → Option (List Nat)
  | [] => if afterDigit then some [] else none
  | c :: cs =>
      if c = '_' then
        if afterDigit then digits false cs else none
      else match digit? c with
        | some d => (digits true cs).map (d :: ·)
        | none => none

def ofDigits (ds : List Nat) : Nat :=
  ds.foldl (fun n d => 10 * n + d) 0

def read (cs : List Char) : Except NumeralError Int :=
  let malformed := NumeralError.malformed (String.ofList cs)
  let (negative, rest) := sign (cs.dropWhile isPad)
  match digits false (rest.takeWhile isBody) with
  | none => .error malformed
  | some ds =>
      if ds.length > digitLimit then .error (.tooLong ds.length)
      else if ((rest.dropWhile isBody).dropWhile isPad).isEmpty then
        .ok (if negative then -(ofDigits ds : Int) else ofDigits ds)
      else .error malformed

theorem ofDigits_append_singleton (ds : List Nat) (d : Nat) :
    ofDigits (ds ++ [d]) = 10 * ofDigits ds + d := by
  simp [ofDigits]

end Numeral

end Timetable.Text
