import Timetable.Stamp.Basic

/-!
The international standard form of dates, times and periods. Dates are written with dashes or
without; a time after a date without dashes is written without colons, every other time with them.
-/
namespace Timetable.Stamp.Iso

def digit : List Char → Option (Nat × List Char)
  | c :: cs => (Text.asciiDigit? c).map fun d => (d, cs)
  | [] => none

/-- A number of exactly `count` digits, which continues `value`. -/
def digitsFrom (value : Nat) : Nat → List Char → Option (Nat × List Char)
  | 0, cs => some (value, cs)
  | count + 1, cs =>
      match digit cs with
      | some (d, cs) => digitsFrom (10 * value + d) count cs
      | none => none

/-- A number of exactly `count` digits. -/
def digits (count : Nat) (cs : List Char) : Option (Nat × List Char) :=
  digitsFrom 0 count cs

/-- A date ends here: the text is at its end, or a time follows. -/
def atDateEnd : List Char → Bool
  | [] => true
  | c :: _ => c == ' ' || c == 'T'

/-- The date of a week and a weekday of a year. Week 1 is the week with the fourth of January; some
years have 53 weeks. -/
def weekDate? (year week day : Nat) : Option Date :=
  let fourth := daysBeforeYear year + 4
  let monday := fourth - (fourth - 1) % 7
  let isLong : Bool :=
    let first := (daysBeforeYear year) % 7
    first == 3 || (first == 2 && isLeap year)
  if year = 0 ∨ day = 0 ∨ 7 < day ∨ 53 < week ∨ (week = 53 ∧ !isLong) then none
  else if monday + 7 * week + day ≤ 8 then none
  else Date.ofOrdinal? (monday + 7 * week + day - 8)

/-- A date at the front of a text: the date, whether it is written with dashes, and the rest. -/
def takeDate (cs : List Char) : Option (Date × Bool × List Char) := do
  let (year, cs) ← digits 4 cs
  match cs with
  | [] => return (← Date.make? year 1 1, false, [])
  | '-' :: 'W' :: cs =>
      let (week, cs) ← digits 2 cs
      if atDateEnd cs then return (← weekDate? year week 1, true, cs)
      else match cs with
        | '-' :: cs =>
            let (day, cs) ← digit cs
            return (← weekDate? year week day, true, cs)
        | _ => none
  | 'W' :: cs =>
      let (week, cs) ← digits 2 cs
      if atDateEnd cs then return (← weekDate? year week 1, false, cs)
      else
        let (day, cs) ← digit cs
        return (← weekDate? year week day, false, cs)
  | '-' :: cs =>
      let (month, cs) ← digits 2 cs
      match cs with
      | [] => return (← Date.make? year month 1, true, [])
      | '-' :: cs =>
          let (day, cs) ← digits 2 cs
          return (← Date.make? year month day, true, cs)
      | cs =>
          let (last, cs) ← digit cs
          return (← Date.ofYearDay? year (10 * month + last), true, cs)
  | cs =>
      let (month, cs) ← digits 2 cs
      let (d, cs) ← digit cs
      if atDateEnd cs then return (← Date.ofYearDay? year (10 * month + d), false, cs)
      else
        let (d', cs) ← digit cs
        return (← Date.make? year month (10 * d + d'), false, cs)

/-- A fraction of a second in microseconds: a point or a comma and digits, of which six count. -/
def takeFraction : List Char → Option (Nat × List Char)
  | [] => some (0, [])
  | c :: cs =>
      if c = '.' ∨ c = ',' then
        let ds := cs.takeWhile Char.isDigit
        if ds.isEmpty then none
        else
          let six := (ds ++ List.replicate 6 '0').take 6
          match digits 6 six with
          | some (n, _) => some (n, cs.dropWhile Char.isDigit)
          | none => none
      else some (0, c :: cs)

/-- A time ends here: the text is at its end, or a distance from universal time follows. -/
def atTimeEnd : List Char → Bool
  | [] => true
  | c :: _ => c == 'Z' || c == '+' || c == '-'

/-- A time at the front of a text, with colons or without. -/
def takeTime (colons : Bool) (cs : List Char) : Option (TimeOfDay × List Char) := do
  let (hour, cs) ← digits 2 cs
  if atTimeEnd cs then return (← TimeOfDay.ofClock? hour 0 0 0, cs)
  else if colons then
    match cs with
    | ':' :: cs =>
        let (minute, cs) ← digits 2 cs
        match cs with
        | ':' :: cs =>
            let (second, cs) ← digits 2 cs
            let (micro, cs) ← takeFraction cs
            return (← TimeOfDay.ofClock? hour minute second micro, cs)
        | cs => return (← TimeOfDay.ofClock? hour minute 0 0, cs)
    | _ => none
  else
    let (minute, cs) ← digits 2 cs
    match digit cs with
    | some _ =>
        let (second, cs) ← digits 2 cs
        let (micro, cs) ← takeFraction cs
        return (← TimeOfDay.ofClock? hour minute second micro, cs)
    | none => return (← TimeOfDay.ofClock? hour minute 0 0, cs)

/-- A distance from universal time, which ends the text; it may be missing. -/
def readOffset : List Char → Option (Option Offset)
  | [] => some none
  | ['Z'] => some (some .utc)
  | c :: cs =>
      if c = '+' ∨ c = '-' then do
        let (hours, cs) ← digits 2 cs
        let minutes ← match cs with
          | [] => some 0
          | ':' :: cs => match digits 2 cs with
              | some (n, []) => some n
              | _ => none
          | cs => match digits 2 cs with
              | some (n, []) => some n
              | _ => none
        let seconds : Int := hours * 3600 + minutes * 60
        return some ⟨if c = '-' then -seconds else seconds, false⟩
      else none

/-- A time without a date, which ends the text. -/
def readClock (cs : List Char) : Option Stamp := do
  let (t, cs) ← takeTime true cs
  let _ ← readOffset cs
  return .clock t

/-- A date, and a time after a `T` or a blank if one follows. -/
def readMoment (cs : List Char) : Option Stamp := do
  let (d, dashes, cs) ← takeDate cs
  match cs with
  | [] => return .date d
  | c :: cs =>
      if c = 'T' ∨ c = ' ' then
        let (t, cs) ← takeTime dashes cs
        return .moment d t (← readOffset cs)
      else none

/-! ### Periods -/

/-- The units of a period, in the order in which they are written. -/
inductive PeriodUnit where
  | year | month | week | day | hour | minute | second
  deriving DecidableEq, Repr

/-- The units of one part of a period, each with its letter, in order. -/
def units (afterT : Bool) : List (Char × PeriodUnit) :=
  if afterT then [('H', .hour), ('M', .minute), ('S', .second)]
  else [('Y', .year), ('M', .month), ('D', .day)]

/-- A period with `n` units more; fractions do not count. -/
def addUnits (p : Period) (n : Nat) : PeriodUnit → Period
  | .year => { p with years := p.years + n }
  | .month => { p with months := p.months + n }
  | .week => { p with days := p.days + 7 * n }
  | .day => { p with days := p.days + n }
  | .hour => { p with seconds := p.seconds + 3600 * n }
  | .minute => { p with seconds := p.seconds + 60 * n }
  | .second => { p with seconds := p.seconds + n }

/-- A number with an optional fraction: the whole number, whether there is a fraction, the rest. -/
def takeAmount (cs : List Char) : Option (Nat × Bool × List Char) :=
  let whole := cs.takeWhile Char.isDigit
  if whole.isEmpty then none
  else
    let n := Text.Numeral.ofDigits (whole.map fun c => c.toNat - '0'.toNat)
    match cs.dropWhile Char.isDigit with
    | [] => none
    | c :: rest =>
        if c = '.' ∨ c = ',' then
          if (rest.takeWhile Char.isDigit).isEmpty then none
          else some (n, true, rest.dropWhile Char.isDigit)
        else some (n, false, c :: rest)

/-- The parts of a period after `P`: amounts with units in order. A fraction is allowed in the last
amount only, and not of years and months. `fuel` bounds the amounts. -/
def readAmounts : Nat → Bool → List (Char × PeriodUnit) → Period → List Char → Option Period
  | 0, _, _, _, _ => none
  | _, _, _, p, [] => some p
  | fuel + 1, afterT, allowed, p, c :: cs =>
      if c = 'T' ∧ !afterT then readAmounts fuel true (units true) p cs
      else match takeAmount (c :: cs) with
        | some (n, hasFraction, letter :: rest) =>
            match allowed.dropWhile fun u => u.1 != letter with
            | (_, u) :: allowed =>
                if hasFraction && (!rest.isEmpty || u == .year || u == .month) then none
                else readAmounts fuel afterT allowed (addUnits p n u) rest
            | [] => none
        | _ => none

/-- A period after its `P`: weeks alone, or amounts of the other units. -/
def readPeriod (cs : List Char) : Option Period :=
  if cs.isEmpty then none
  else match takeAmount cs with
    | some (n, _, ['W']) => some (addUnits ⟨0, 0, 0, 0⟩ n .week)
    | _ => readAmounts (cs.length + 1) false (units false) ⟨0, 0, 0, 0⟩ cs

/-! ### Whole texts -/

def readStamp (cs : List Char) : Option Stamp :=
  match cs with
  | 'P' :: cs => (readPeriod cs).map .period
  | 'T' :: cs => readClock cs
  | _ :: _ :: ':' :: _ => readClock cs
  | cs => readMoment cs

/-- A text of two stamps with a slash between them; a period may stand for one of the ends. -/
def readInterval (cs : List Char) : Option (Stamp × Stamp) :=
  match Text.splitAt '/' cs with
  | [first, last] => do return (← readStamp first, ← readStamp last)
  | _ => none

end Timetable.Stamp.Iso
