import Timetable.Text.Printable

/-!
Quoted text: the form in which a text is shown inside a message. It stands between single quotes,
or between double quotes if it holds a single quote and no double quote; characters that are not
printable are written as escapes.
-/
namespace Timetable.Text

/-- The lower case hexadecimal digit of a value below sixteen. -/
def hexDigit (n : Nat) : Char :=
  Nat.digitChar (n % 16)

/-- The last `count` hexadecimal digits of `n`, the most significant first. -/
def hexDigits : Nat → Nat → List Char
  | 0, _ => []
  | count + 1, n => hexDigits count (n / 16) ++ [hexDigit n]

/-- One character inside quotes of the kind `quoteMark`. -/
def quoteChar (quoteMark c : Char) : List Char :=
  if c = quoteMark || c = '\\' then ['\\', c]
  else if c = '\n' then ['\\', 'n']
  else if c = '\r' then ['\\', 'r']
  else if c = '\t' then ['\\', 't']
  else if isPrintable c then [c]
  else if c.toNat < 0x100 then '\\' :: 'x' :: hexDigits 2 c.toNat
  else if c.toNat < 0x10000 then '\\' :: 'u' :: hexDigits 4 c.toNat
  else '\\' :: 'U' :: hexDigits 8 c.toNat

def quoteMarkFor (cs : List Char) : Char :=
  if cs.contains '\'' && !cs.contains '"' then '"' else '\''

def quoted (cs : List Char) : List Char :=
  let mark := quoteMarkFor cs
  mark :: cs.flatMap (quoteChar mark) ++ [mark]

def quote (s : String) : String :=
  String.ofList (quoted s.toList)

end Timetable.Text
