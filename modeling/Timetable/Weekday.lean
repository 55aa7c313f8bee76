import Timetable.Text.Blank
import Timetable.Text.Case
import Timetable.Text.Quoted

/-!
The days of the week, their names, and how a name is read: surrounding blanks and letter case do not
matter, and each day has a full name and an abbreviation of three letters.
-/
namespace Timetable

/-- A day of the week. -/
inductive Weekday where
  | monday | tuesday | wednesday | thursday | friday | saturday | sunday
  deriving DecidableEq, Repr

namespace Weekday

def all : List Weekday :=
  [monday, tuesday, wednesday, thursday, friday, saturday, sunday]

/-- The place of a day in the week, Monday first. -/
def index : Weekday → Nat
  | monday => 0
  | tuesday => 1
  | wednesday => 2
  | thursday => 3
  | friday => 4
  | saturday => 5
  | sunday => 6

def ofIndex? : Nat → Option Weekday
  | 0 => some monday
  | 1 => some tuesday
  | 2 => some wednesday
  | 3 => some thursday
  | 4 => some friday
  | 5 => some saturday
  | 6 => some sunday
  | _ => none

/-- The day that a running count of days falls on, day 0 being a Monday. -/
def ofCount (n : Nat) : Weekday :=
  match n % 7 with
  | 0 => monday
  | 1 => tuesday
  | 2 => wednesday
  | 3 => thursday
  | 4 => friday
  | 5 => saturday
  | _ => sunday

theorem mem_all (d : Weekday) : d ∈ all := by
  cases d <;> decide

theorem index_lt (d : Weekday) : d.index < 7 := by
  cases d <;> decide

theorem ofIndex?_index (d : Weekday) : ofIndex? d.index = some d := by
  cases d <;> rfl

theorem index_ofCount (n : Nat) : (ofCount n).index = n % 7 := by
  have h : n % 7 < 7 := Nat.mod_lt n (by decide)
  unfold ofCount
  generalize n % 7 = k at h
  match k, h with
  | 0, _ | 1, _ | 2, _ | 3, _ | 4, _ | 5, _ | 6, _ => rfl

theorem index_injective {a b : Weekday} (h : a.index = b.index) : a = b := by
  have ha := ofIndex?_index a
  rw [h, ofIndex?_index b] at ha
  exact (Option.some.inj ha).symm

def lowerName : Weekday → List Char
  | monday => ['m', 'o', 'n', 'd', 'a', 'y']
  | tuesday => ['t', 'u', 'e', 's', 'd', 'a', 'y']
  | wednesday => ['w', 'e', 'd', 'n', 'e', 's', 'd', 'a', 'y']
  | thursday => ['t', 'h', 'u', 'r', 's', 'd', 'a', 'y']
  | friday => ['f', 'r', 'i', 'd', 'a', 'y']
  | saturday => ['s', 'a', 't', 'u', 'r', 'd', 'a', 'y']
  | sunday => ['s', 'u', 'n', 'd', 'a', 'y']

/-- The abbreviation in lower case: the first three letters of the name. -/
def lowerAbbreviation (d : Weekday) : List Char :=
  d.lowerName.take 3

def capitalName (d : Weekday) : List Char :=
  match d.lowerName with
  | [] => []
  | c :: cs => c.toUpper :: cs

def name (d : Weekday) : String :=
  String.ofList d.capitalName

/-- The day with a name or an abbreviation, both in lower case. -/
def ofLowerName? (cs : List Char) : Option Weekday :=
  all.find? fun d => cs = d.lowerName || cs = d.lowerAbbreviation

theorem ofLowerName?_eq_some_iff {cs : List Char} {d : Weekday} :
    ofLowerName? cs = some d ↔ cs = d.lowerName ∨ cs = d.lowerAbbreviation := by
  constructor
  · intro h
    simpa using List.find?_some h
  · rintro (rfl | rfl) <;> cases d <;> decide

/-- A text that names no day. -/
structure Unknown where
  text : String
  deriving DecidableEq, Repr

def Unknown.message (e : Unknown) : String :=
  "Unknown weekday: " ++ Text.quote e.text

/-- Reads a day; a text of blanks names none. -/
def read (text : String) : Except Unknown (Option Weekday) :=
  if Text.allBlank text.toList then .ok none
  else match ofLowerName? (Text.lowerFrom [] (Text.trim text.toList)) with
    | some d => .ok (some d)
    | none => .error ⟨text⟩

end Weekday

end Timetable
