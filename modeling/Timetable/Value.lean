import Timetable.Binary64
import Timetable.Instant
import Timetable.Text.Numeral

/-!
Values of no fixed kind, as they come from a configuration document or from a caller, and the form
in which a message shows them.
-/
namespace Timetable

/-- The kinds of time of day that a caller may hand over. -/
inductive ClockForm where
  /-- A message shows its seconds only if they are not zero. -/
  | short
  | long
  | zoned
  deriving DecidableEq, Repr

/-- A value of any kind. -/
inductive Value where
  | null
  | bool (b : Bool)
  | int (n : Int)
  | float (x : Binary64)
  | text (s : String)
  | bytes (bs : List UInt8)
  | list (items : List Value)
  | tuple (items : List Value)
  | set (items : List Value)
  | map (entries : List (Value × Value))
  | date (d : Date)
  | moment (d : Date) (t : TimeOfDay) (offset : Option Int)
  | clock (t : TimeOfDay) (form : ClockForm)

namespace Value

def kind : Value → String
  | null => "NoneType"
  | bool _ => "bool"
  | int _ => "int"
  | float _ => "float"
  | text _ => "str"
  | bytes _ => "bytes"
  | list _ => "list"
  | tuple _ => "tuple"
  | set _ => "set"
  | map _ => "dict"
  | date _ => "date"
  | moment _ _ _ => "datetime"
  | clock _ .short => "time"
  | clock _ _ => "Time"

def fullKind : Value → String
  | date _ => "datetime.date"
  | moment _ _ _ => "datetime.datetime"
  | clock _ .short => "datetime.time"
  | v => v.kind

def numberList (ns : List Nat) : List Char :=
  Text.joinWith [',', ' '] (ns.map Text.decimal)

/-- Hours and minutes, then seconds if they or the microseconds are not zero, then microseconds
unless they are zero. -/
def shortClock (t : TimeOfDay) : List Nat :=
  if t.microsecond ≠ 0 then [t.hour, t.minute, t.second, t.microsecond]
  else if t.second ≠ 0 then [t.hour, t.minute, t.second]
  else [t.hour, t.minute]

/-- Hours, minutes and seconds, then microseconds unless they are zero. -/
def longClock (t : TimeOfDay) : List Nat :=
  if t.microsecond ≠ 0 then [t.hour, t.minute, t.second, t.microsecond]
  else [t.hour, t.minute, t.second]

/-- A length of time as a message shows it: whole days, which may be negative, and the seconds left. -/
def durationDisplay (seconds : Int) : String :=
  let part (name : String) (n : Int) : List String :=
    if n = 0 then [] else [name ++ String.ofList (Text.decimalInt n)]
  let parts := part "days=" (seconds / 86400) ++ part "seconds=" (seconds % 86400)
  "datetime.timedelta(" ++ (if parts.isEmpty then "0" else Text.join ", " parts) ++ ")"

def offsetDisplay (seconds : Int) : String :=
  if seconds = 0 then "datetime.timezone.utc"
  else "datetime.timezone(" ++ durationDisplay seconds ++ ")"

/-- One byte inside quotes of the kind `mark`. -/
def byteChars (mark : Char) (b : UInt8) : List Char :=
  let c := Char.ofNat b.toNat
  if c = mark || c = '\\' then ['\\', c]
  else if c = '\n' then ['\\', 'n']
  else if c = '\r' then ['\\', 'r']
  else if c = '\t' then ['\\', 't']
  else if 0x20 ≤ b.toNat && b.toNat < 0x7f then [c]
  else '\\' :: 'x' :: Text.hexDigits 2 b.toNat

def bytesDisplay (bs : List UInt8) : String :=
  let mark := Text.quoteMarkFor (bs.map fun b => Char.ofNat b.toNat)
  String.ofList ('b' :: mark :: bs.flatMap (byteChars mark) ++ [mark])

def momentDisplay (d : Date) (t : TimeOfDay) (offset : Option Int) : String :=
  "datetime.datetime(" ++ String.ofList (numberList ([d.year, d.month, d.day] ++ shortClock t)) ++
    (match offset with
      | none => ""
      | some o => ", tzinfo=" ++ offsetDisplay o) ++ ")"

def clockDisplay (t : TimeOfDay) : ClockForm → String
  | .short => "datetime.time(" ++ String.ofList (numberList (shortClock t)) ++ ")"
  | .long => "Time(" ++ String.ofList (numberList (longClock t)) ++ ")"
  | .zoned => "Time(" ++ String.ofList (numberList (longClock t)) ++ ", tzinfo=Timezone('UTC'))"

mutual

def display : Value → String
  | null => "None"
  | bool true => "True"
  | bool false => "False"
  | int n => String.ofList (Text.decimalInt n)
  | float x => String.ofList x.text
  | text s => Text.quote s
  | bytes bs => bytesDisplay bs
  | list items => "[" ++ displayItems items ++ "]"
  | tuple [] => "()"
  | tuple [item] => "(" ++ display item ++ ",)"
  | tuple items => "(" ++ displayItems items ++ ")"
  | set [] => "set()"
  | set items => "\x7b" ++ displayItems items ++ "\x7d"
  | map entries => "\x7b" ++ displayEntries entries ++ "\x7d"
  | date d => "datetime.date(" ++ String.ofList (numberList [d.year, d.month, d.day]) ++ ")"
  | moment d t offset => momentDisplay d t offset
  | clock t form => clockDisplay t form

def displayItems : List Value → String
  | [] => ""
  | [item] => display item
  | item :: items => display item ++ ", " ++ displayItems items

def displayEntries : List (Value × Value) → String
  | [] => ""
  | [(k, v)] => display k ++ ": " ++ display v
  | (k, v) :: entries => display k ++ ": " ++ display v ++ ", " ++ displayEntries entries

end

/-- The least number with too many digits to be put into text. -/
def longNumber : Nat := Nat.pow 10 Text.Numeral.digitLimit

/-- What is said where such a number should be put into text. -/
def longNumberMessage : String :=
  "Exceeds the limit (" ++ toString Text.Numeral.digitLimit ++
    " digits) for integer string conversion; use sys.set_int_max_str_digits() to increase the limit"

mutual

/-- Somewhere in a value stands a number with too many digits. -/
def hasLongNumber : Value → Bool
  | int n => Nat.ble longNumber n.natAbs
  | list items => anyLongNumber items
  | tuple items => anyLongNumber items
  | set items => anyLongNumber items
  | map entries => anyLongEntry entries
  | _ => false

def anyLongNumber : List Value → Bool
  | [] => false
  | item :: items => hasLongNumber item || anyLongNumber items

def anyLongEntry : List (Value × Value) → Bool
  | [] => false
  | (k, v) :: entries => hasLongNumber k || hasLongNumber v || anyLongEntry entries

end

/-- The form in which a message shows a value, if its numbers can be put into text. -/
def shown? (v : Value) : Option String :=
  if v.hasLongNumber then none else some v.display

/-- The form of a value in a report, which says something of each value. -/
def reported (v : Value) : String :=
  v.shown?.getD ("<unprintable " ++ v.kind ++ " object>")

/-- The text that a value is put into where texts are put together. -/
def plain? : Value → Option String
  | text s => some s
  | date d => some (String.ofList d.text)
  | moment d t offset =>
      some (String.ofList (Instant.spacedText ⟨d, t, offset.map fun o => ⟨o, false⟩⟩))
  | clock t .zoned => some (String.ofList (t.fullText ++ Offset.utc.text))
  | clock t _ => some (String.ofList t.fullText)
  | v => v.shown?

/-- The values that count as absent where an optional value is asked for. -/
def isFalsy : Value → Bool
  | null => true
  | bool b => !b
  | int n => n == 0
  | float x => x.sameValue Binary64.zero
  | text s => s.isEmpty
  | bytes bs => bs.isEmpty
  | list items => items.isEmpty
  | tuple items => items.isEmpty
  | set items => items.isEmpty
  | map entries => entries.isEmpty
  | _ => false

def toInt? : Value → Option Int
  | bool b => some (if b then 1 else 0)
  | int n => some n
  | float x => x.toInt?
  | _ => none

/-- A moment in microseconds of universal time. -/
def momentTicks (d : Date) (t : TimeOfDay) (offset : Int) : Int :=
  (d.ordinal : Int) * ticksPerDay + t.ticks - offset * 1000000

mutual

/-- Two values are the same key: numbers are compared across their kinds, everything else within
its kind. Values that cannot be keys are never the same. -/
def sameKey (a b : Value) : Bool :=
  match a, b with
  | null, null => true
  | text s, text t => s == t
  | bytes s, bytes t => s == t
  | tuple xs, tuple ys => sameKeys xs ys
  | date d, date e => d == e
  | moment d t none, moment e u none => d == e && t == u
  | moment d t (some o), moment e u (some p) => momentTicks d t o == momentTicks e u p
  | clock t form, clock u form' => t == u && (form == .zoned) == (form' == .zoned)
  | a, b =>
      match a.toInt?, b.toInt? with
      | some m, some n => m == n
      | none, none =>
          match a, b with
          | float x, float y => x.sameValue y
          | _, _ => false
      | _, _ => false

def sameKeys : List Value → List Value → Bool
  | [], [] => true
  | x :: xs, y :: ys => sameKey x y && sameKeys xs ys
  | _, _ => false

end

mutual

def isKey : Value → Bool
  | list _ => false
  | set _ => false
  | map _ => false
  | tuple items => areKeys items
  | _ => true

def areKeys : List Value → Bool
  | [] => true
  | v :: vs => isKey v && areKeys vs

end

/-- A mapping with one more entry: a key that is there already keeps its place and its first form,
and takes the new value. -/
def insertEntry (k v : Value) : List (Value × Value) → List (Value × Value)
  | [] => [(k, v)]
  | (k', v') :: entries =>
      if sameKey k' k then (k', v) :: entries else (k', v') :: insertEntry k v entries

/-- The mapping with the given entries, entered one after the other. -/
def ofEntries (entries : List (Value × Value)) : Value :=
  map (entries.foldl (fun m e => insertEntry e.1 e.2 m) [])

/-- The weekday that a value equals as a number, Monday being 0. -/
def weekday? (v : Value) : Option Weekday :=
  match v.toInt? with
  | some (.ofNat n) => Weekday.ofIndex? n
  | _ => none

end Value

end Timetable
