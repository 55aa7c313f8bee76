import Timetable.Stamp.Basic

/-!
The loose form of dates and times: a date as a year, or as year, month and day with slashes, colons
or nothing between them, and a time with colons and parts of one or two digits. Digits of every
script count. A text of this form with numbers out of range is an error of its own.
-/
namespace Timetable.Stamp.Loose

def digit : List Char → Option (Nat × List Char)
  | c :: cs => (Text.digit? c).map fun d => (d, cs)
  | [] => none

/-- A number of exactly two digits. -/
def twoDigits (cs : List Char) : Option (Nat × List Char) := do
  let (a, cs) ← digit cs
  let (b, cs) ← digit cs
  return (10 * a + b, cs)

def upToTwoDigits (cs : List Char) : Option (Nat × List Char) :=
  match digit cs with
  | none => none
  | some (a, cs) => match digit cs with
      | none => some (a, cs)
      | some (b, cs) => some (10 * a + b, cs)

/-- A slash or a colon is passed over. -/
def skipSeparator : List Char → List Char
  | c :: cs => if c = '/' ∨ c = ':' then cs else c :: cs
  | [] => []

/-- The numbers of a date. -/
structure DateFields where
  year : Nat
  month : Nat
  day : Nat
  deriving DecidableEq, Repr

def takeYear (cs : List Char) : Option (Nat × List Char) := do
  let (a, cs) ← twoDigits cs
  let (b, cs) ← twoDigits cs
  return (100 * a + b, cs)

def takeFullDate (cs : List Char) : Option (DateFields × List Char) := do
  let (year, cs) ← takeYear cs
  let (month, cs) ← twoDigits (skipSeparator cs)
  let (day, cs) ← twoDigits (skipSeparator cs)
  return (⟨year, month, day⟩, cs)

/-- The ways to start a text with a date, in the order in which they are tried: a full date, a year
that stands for its first day, no date. -/
def dateChoices (cs : List Char) : List (Option DateFields × List Char) :=
  (match takeFullDate cs with
    | some (d, rest) => [(some d, rest)]
    | none => []) ++
  (match takeYear cs with
    | some (year, rest) => [(some ⟨year, 1, 1⟩, rest)]
    | none => []) ++ [(none, cs)]

/-- The numbers of a time; the minute may be missing. -/
structure ClockFields where
  hour : Nat
  minute : Option Nat
  second : Nat
  microsecond : Nat
  deriving DecidableEq, Repr

/-- The digits at the front of a text, nine at most. -/
def takeNine : Nat → List Char → List Nat × List Char
  | 0, cs => ([], cs)
  | fuel + 1, cs =>
      match digit cs with
      | none => ([], cs)
      | some (d, cs) =>
          let (ds, cs) := takeNine fuel cs
          (d :: ds, cs)

/-- A fraction that ends the text, in microseconds: a point, a bar or a comma and one to nine digits,
of which six count. -/
def readFraction : List Char → Option Nat
  | [] => some 0
  | c :: cs =>
      if c = '.' ∨ c = '|' ∨ c = ',' then
        match takeNine 9 cs with
        | ([], _) => none
        | (ds, []) => some (Text.Numeral.ofDigits ((ds ++ List.replicate 6 0).take 6))
        | _ => none
      else none

def takeSecond : List Char → Nat × List Char
  | ':' :: cs => match upToTwoDigits cs with
      | some r => r
      | none => (0, ':' :: cs)
  | cs => (0, cs)

/-- A time that ends the text, one blank allowed in front. -/
def readClock (cs : List Char) : Option ClockFields := do
  let cs := match cs with
    | ' ' :: rest => rest
    | cs => cs
  let (hour, cs) ← upToTwoDigits cs
  match cs with
  | ':' :: cs =>
      let (minute, cs) := match upToTwoDigits cs with
        | some (n, rest) => (some n, rest)
        | none => (none, cs)
      let (second, cs) := takeSecond cs
      return ⟨hour, minute, second, ← readFraction cs⟩
  | _ => none

/-- The numbers of a date and of a time, either of which may be missing, but not both. -/
def readFields (cs : List Char) : Option (Option DateFields × Option ClockFields) :=
  (dateChoices cs).findSome? fun (d, rest) =>
    if rest.isEmpty then
      if d.isSome then some (d, none) else none
    else (readClock rest).map fun t => (d, some t)

def clock (f : ClockFields) (minute : Nat) : Except StampError TimeOfDay :=
  match TimeOfDay.ofClock? f.hour minute f.second f.microsecond with
  | some t => .ok t
  | none =>
      if 24 ≤ f.hour then .error (.clock .hour)
      else if 60 ≤ minute then .error (.clock .minute)
      else .error (.clock .second)

def date (f : DateFields) : Except StampError Date :=
  (Date.make f.year f.month f.day).mapError .date

/-- The stamp with the given numbers. A missing minute is found before numbers out of range, and
those of the date before those of the time. -/
def ofFields : Option DateFields → Option ClockFields → Except StampError (Option Stamp)
  | none, none => .ok none
  | some d, none => (date d).map fun d => some (.date d)
  | none, some t =>
      match t.minute with
      | none => .error .noMinute
      | some minute => (clock t minute).map fun t => some (.clock t)
  | some d, some t =>
      match t.minute with
      | none => .error .noMinute
      | some minute => do
          let d ← date d
          let t ← clock t minute
          return some (.moment d t none)

/-- The stamp that a text of the loose form stands for; no stamp if the text is of another form. -/
def readStamp (cs : List Char) : Except StampError (Option Stamp) :=
  match readFields cs with
  | none => .ok none
  | some (d, t) => ofFields d t

end Timetable.Stamp.Loose
