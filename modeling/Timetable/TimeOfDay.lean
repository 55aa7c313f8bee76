import Timetable.Text.Decimal
import Timetable.Text.Numeral
import Timetable.Text.Split
import Timetable.Word

/-!
Times of day, to the microsecond. A time is the count of microseconds since midnight; hours,
minutes, seconds and microseconds are views of that count. Main statement: building a time from the
four views of a time gives the time back.
-/
namespace Timetable

def ticksPerDay : Nat := 86400000000

/-- A time of day: the microseconds since midnight. -/
structure TimeOfDay where
  ticks : Nat
  lt_day : ticks < ticksPerDay
  deriving DecidableEq, Repr

namespace TimeOfDay

theorem ext_ticks {s t : TimeOfDay} (h : s.ticks = t.ticks) : s = t := by
  cases s; cases t; simp_all

instance : LT TimeOfDay := ⟨fun s t => s.ticks < t.ticks⟩
instance : LE TimeOfDay := ⟨fun s t => s.ticks ≤ t.ticks⟩

instance (s t : TimeOfDay) : Decidable (s < t) := inferInstanceAs (Decidable (s.ticks < t.ticks))
instance (s t : TimeOfDay) : Decidable (s ≤ t) := inferInstanceAs (Decidable (s.ticks ≤ t.ticks))

theorem lt_def {s t : TimeOfDay} : s < t ↔ s.ticks < t.ticks := Iff.rfl
theorem le_def {s t : TimeOfDay} : s ≤ t ↔ s.ticks ≤ t.ticks := Iff.rfl

def hour (t : TimeOfDay) : Nat := t.ticks / 3600000000
def minute (t : TimeOfDay) : Nat := t.ticks / 60000000 % 60
def second (t : TimeOfDay) : Nat := t.ticks / 1000000 % 60
def microsecond (t : TimeOfDay) : Nat := t.ticks % 1000000

theorem hour_lt (t : TimeOfDay) : t.hour < 24 := by
  have h := t.lt_day
  simp only [hour, ticksPerDay] at *
  omega

theorem minute_lt (t : TimeOfDay) : t.minute < 60 := Nat.mod_lt _ (by decide)
theorem second_lt (t : TimeOfDay) : t.second < 60 := Nat.mod_lt _ (by decide)
theorem microsecond_lt (t : TimeOfDay) : t.microsecond < 1000000 := Nat.mod_lt _ (by decide)

def midnight : TimeOfDay := ⟨0, by decide⟩

/-- The time with the given views, if each is in its range. -/
def ofClock? (hour minute second microsecond : Nat) : Option TimeOfDay :=
  if h : hour < 24 ∧ minute < 60 ∧ second < 60 ∧ microsecond < 1000000 then
    some ⟨((hour * 60 + minute) * 60 + second) * 1000000 + microsecond, by
      simp only [ticksPerDay]; omega⟩
  else none

theorem ticks_eq (t : TimeOfDay) :
    t.ticks = ((t.hour * 60 + t.minute) * 60 + t.second) * 1000000 + t.microsecond := by
  simp only [hour, minute, second, microsecond]
  omega

theorem ofClock?_views (t : TimeOfDay) :
    ofClock? t.hour t.minute t.second t.microsecond = some t := by
  have h : t.hour < 24 ∧ t.minute < 60 ∧ t.second < 60 ∧ t.microsecond < 1000000 :=
    ⟨t.hour_lt, t.minute_lt, t.second_lt, t.microsecond_lt⟩
  simp only [ofClock?, h, and_self, ↓reduceDIte, Option.some.injEq]
  exact ext_ticks t.ticks_eq.symm

theorem views_of_ofClock? {h m s us : Nat} {t : TimeOfDay} (ht : ofClock? h m s us = some t) :
    t.hour = h ∧ t.minute = m ∧ t.second = s ∧ t.microsecond = us := by
  unfold ofClock? at ht
  split at ht
  · next hb =>
    cases ht
    simp only [hour, minute, second, microsecond]
    omega
  · cases ht

def wholeSeconds (t : TimeOfDay) : TimeOfDay :=
  ⟨t.ticks / 1000000 * 1000000, by have h := t.lt_day; simp only [ticksPerDay] at *; omega⟩

/-- Hours, minutes and seconds, two digits each. -/
def clockText (t : TimeOfDay) : List Char :=
  Text.padded 2 t.hour ++ ':' :: Text.padded 2 t.minute ++ ':' :: Text.padded 2 t.second

/-- Hours, minutes, seconds, and the microseconds unless they are zero. -/
def fullText (t : TimeOfDay) : List Char :=
  t.clockText ++ if t.microsecond = 0 then [] else '.' :: Text.padded 6 t.microsecond

/-! ### Reading -/

/-- The parts of a clock time. -/
inductive Part where
  | hour | minute | second
  deriving DecidableEq, Repr

/-- Why a text is not read as a time of day. -/
inductive ReadError where
  | numeral (e : Text.NumeralError)
  | tooFewParts
  | tooManyParts
  | beyondLong
  | aboveInt
  | belowInt
  | outOfRange (part : Part)
  deriving DecidableEq, Repr

def ReadError.message : ReadError → String
  | numeral e => e.message
  | tooFewParts => "not enough values to unpack (expected 3, got 1)"
  | tooManyParts => "too many values to unpack (expected 3)"
  | beyondLong => "Python int too large to convert to C long"
  | aboveInt => "signed integer is greater than maximum"
  | belowInt => "signed integer is less than minimum"
  | outOfRange .hour => "hour must be in 0..23"
  | outOfRange .minute => "minute must be in 0..59"
  | outOfRange .second => "second must be in 0..59"

def checkWord (n : Int) : Except ReadError Int :=
  if !Word.fits Word.bound64 n then .error .beyondLong
  else if Word.bound32 ≤ n then .error .aboveInt
  else if n < -Word.bound32 then .error .belowInt
  else .ok n

def ofParts (hour minute second : Int) : Except ReadError TimeOfDay := do
  let hour ← checkWord hour
  let minute ← checkWord minute
  let second ← checkWord second
  if hour < 0 ∨ 24 ≤ hour then .error (.outOfRange .hour)
  else if minute < 0 ∨ 60 ≤ minute then .error (.outOfRange .minute)
  else if second < 0 ∨ 60 ≤ second then .error (.outOfRange .second)
  else match ofClock? hour.toNat minute.toNat second.toNat 0 with
    | some t => .ok t
    | none => .error (.outOfRange .hour)

def readNumbers : List (List Char) → Except ReadError (List Int)
  | [] => .ok []
  | part :: parts =>
      match Text.Numeral.read part with
      | .error e => .error (.numeral e)
      | .ok n => match readNumbers parts with
        | .error e => .error e
        | .ok ns => .ok (n :: ns)

/-- Reads hours, minutes and optional seconds between colons; a text of blanks names no time. -/
def read (text : String) : Except ReadError (Option TimeOfDay) :=
  let cs := Text.trim text.toList
  if cs.isEmpty then .ok none
  else match readNumbers (Text.splitAt ':' cs) with
    | .error e => .error e
    | .ok [h, m] => (ofParts h m 0).map some
    | .ok [h, m, s] => (ofParts h m s).map some
    | .ok (_ :: _ :: _ :: _ :: _) => .error .tooManyParts
    | .ok _ => .error .tooFewParts

end TimeOfDay

end Timetable
