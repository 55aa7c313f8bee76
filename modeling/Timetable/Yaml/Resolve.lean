import Timetable.Text.Split
import Timetable.Yaml.Cursor

/-!
What kind of value a plain text stands for. A text is a truth value, a number, a merge sign, nothing,
a timestamp or a value sign if it has the form of one; otherwise it is a text. The forms are tried in
that order, and a line feed at the end of the text does not count.
-/
namespace Timetable.Yaml

/-- The kinds of values. -/
inductive Tag where
  | null | bool | int | float | binary | timestamp | orderedMap | pairs | set
  | text | sequence | mapping | merge | value
  /-- Any other kind; no value is of it. -/
  | other
  deriving DecidableEq, Repr

def tagStem : List Char := "tag:yaml.org,2002:".toList

def Tag.ofText (cs : List Char) : Tag :=
  if cs.take tagStem.length == tagStem then
    match String.ofList (cs.drop tagStem.length) with
    | "null" => .null
    | "bool" => .bool
    | "int" => .int
    | "float" => .float
    | "binary" => .binary
    | "timestamp" => .timestamp
    | "omap" => .orderedMap
    | "pairs" => .pairs
    | "set" => .set
    | "str" => .text
    | "seq" => .sequence
    | "map" => .mapping
    | "merge" => .merge
    | "value" => .value
    | _ => .other
  else .other

/-! ### Truth values and nothing -/

def truth? (cs : List Char) : Option Bool :=
  match String.ofList cs with
  | "yes" | "true" | "on" => some true
  | "no" | "false" | "off" => some false
  | _ => none

/-- A word in lower case, with a capital letter, or in capitals. -/
def isPlainCase (cs : List Char) : Bool :=
  cs.all Char.isLower || cs.all Char.isUpper ||
    match cs with
    | [] => true
    | c :: rest => c.isUpper && rest.all Char.isLower

def isTruth (cs : List Char) : Bool :=
  isPlainCase cs && (truth? (cs.map Char.toLower)).isSome

def isNull (cs : List Char) : Bool :=
  cs == [] || cs == ['~'] || (isPlainCase cs && cs.map Char.toLower == ['n', 'u', 'l', 'l'])

/-! ### Numbers -/

/-- A sign in front is passed over. -/
def skipSign : List Char → List Char
  | c :: cs => if c = '+' ∨ c = '-' then cs else c :: cs
  | [] => []

/-- Digits and underscores, a digit first, are passed over. -/
def skipDigits? : List Char → Option (List Char)
  | c :: cs => if c.isDigit then some (cs.dropWhile fun x => x.isDigit || x == '_') else none
  | [] => none

/-- Groups of a colon and a number below sixty are passed over. -/
def skipSixtieths : Nat → List Char → List Char
  | 0, cs => cs
  | fuel + 1, cs =>
      match cs with
      | ':' :: a :: rest =>
          if a.isDigit then
            match rest with
            | b :: rest' =>
                if b.isDigit then
                  if a.toNat ≤ '5'.toNat then skipSixtieths fuel rest' else cs
                else skipSixtieths fuel rest
            | [] => []
          else cs
      | cs => cs

/-- An exponent with a sign ends the text, or the text is at its end. -/
def isExponent : List Char → Bool
  | [] => true
  | [_] => false
  | e :: s :: ds =>
      (e == 'e' || e == 'E') && (s == '+' || s == '-') && !ds.isEmpty && ds.all Char.isDigit

def isInt (cs : List Char) : Bool :=
  match skipSign cs with
  | [] => false
  | '0' :: rest =>
      match rest with
      | 'b' :: ds => !ds.isEmpty && ds.all fun x => x == '0' || x == '1' || x == '_'
      | 'x' :: ds => !ds.isEmpty && ds.all fun x =>
          x.isDigit || ('a' ≤ x && x ≤ 'f') || ('A' ≤ x && x ≤ 'F') || x == '_'
      | ds => ds.all fun x => ('0' ≤ x && x ≤ '7') || x == '_'
  | ds => match skipDigits? ds with
      | none => false
      | some rest => (skipSixtieths rest.length rest).isEmpty

def isFloat (cs : List Char) : Bool :=
  let body := skipSign cs
  let isDigitOrUnderscore (x : Char) := x.isDigit || x == '_'
  let isPositional := match skipDigits? body with
    | some ('.' :: rest) => isExponent (rest.dropWhile isDigitOrUnderscore)
    | _ => false
  let isFraction := match cs with
    | '.' :: rest => match skipDigits? rest with
        | some rest => isExponent rest
        | none => false
    | _ => false
  let isSixtieths := match skipDigits? body with
    | some rest =>
        let rest' := skipSixtieths rest.length rest
        rest'.length < rest.length && match rest' with
          | '.' :: ds => ds.all isDigitOrUnderscore
          | _ => false
    | none => false
  let isInfinite := match body with
    | ['.', 'i', 'n', 'f'] | ['.', 'I', 'n', 'f'] | ['.', 'I', 'N', 'F'] => true
    | _ => false
  let isNan := match cs with
    | ['.', 'n', 'a', 'n'] | ['.', 'N', 'a', 'N'] | ['.', 'N', 'A', 'N'] => true
    | _ => false
  isPositional || isFraction || isSixtieths || isInfinite || isNan

/-! ### Timestamps -/

/-- A distance from universal time as it is written. -/
structure OffsetFields where
  negative : Bool
  hours : Nat
  minutes : Nat
  deriving DecidableEq, Repr

/-- The numbers of a time of day. -/
structure ClockFields where
  hour : Nat
  minute : Nat
  second : Nat
  fraction : List Char
  offset : Option OffsetFields
  deriving DecidableEq, Repr

/-- The numbers of a timestamp. -/
structure StampFields where
  year : Nat
  month : Nat
  day : Nat
  clock : Option ClockFields
  deriving DecidableEq, Repr

/-- A number of at least `least` and at most two digits. -/
def upToTwo (least : Nat) : List Char → Option (Nat × List Char)
  | a :: b :: cs =>
      if a.isDigit && b.isDigit then some ((a.toNat - 48) * 10 + (b.toNat - 48), cs)
      else if a.isDigit && least == 1 then some (a.toNat - 48, b :: cs)
      else none
  | [a] => if a.isDigit && least == 1 then some (a.toNat - 48, []) else none
  | [] => none

def readOffset (cs : List Char) : Option (Option OffsetFields) :=
  match cs with
  | [] => some none
  | _ => match cs.dropWhile fun x => x == ' ' || x == '\t' with
      | ['Z'] => some (some ⟨false, 0, 0⟩)
      | c :: rest =>
          if c = '+' ∨ c = '-' then
            match upToTwo 1 rest with
            | some (h, []) => some (some ⟨c == '-', h, 0⟩)
            | some (h, ':' :: rest) => match upToTwo 2 rest with
                | some (m, []) => some (some ⟨c == '-', h, m⟩)
                | _ => none
            | _ => none
          else none
      | [] => none

def readClock (cs : List Char) : Option ClockFields := do
  let (hour, cs) ← upToTwo 1 cs
  match cs with
  | ':' :: cs =>
      let (minute, cs) ← upToTwo 2 cs
      match cs with
      | ':' :: cs =>
          let (second, cs) ← upToTwo 2 cs
          match cs with
          | '.' :: cs =>
              let fraction := cs.takeWhile Char.isDigit
              return ⟨hour, minute, second, fraction, ← readOffset (cs.dropWhile Char.isDigit)⟩
          | cs => return ⟨hour, minute, second, [], ← readOffset cs⟩
      | _ => none
  | _ => none

/-- A timestamp: a date, and a time of day after a `T` or blanks. -/
def readStamp (cs : List Char) : Option StampFields := do
  let (a, cs) ← upToTwo 2 cs
  let (b, cs) ← upToTwo 2 cs
  match cs with
  | '-' :: cs =>
      let (month, cs) ← upToTwo 1 cs
      match cs with
      | '-' :: cs =>
          let (day, cs) ← upToTwo 1 cs
          match cs with
          | [] => return ⟨100 * a + b, month, day, none⟩
          | c :: cs =>
              if c = 'T' ∨ c = 't' then
                return ⟨100 * a + b, month, day, some (← readClock cs)⟩
              else if c = ' ' ∨ c = '\t' then
                let cs := cs.dropWhile fun x => x == ' ' || x == '\t'
                return ⟨100 * a + b, month, day, some (← readClock cs)⟩
              else none
      | _ => none
  | _ => none

/-- A date alone has two digits for the month and for the day. -/
def isTimestamp (cs : List Char) : Bool :=
  match readStamp cs with
  | some f => f.clock.isSome || cs.length == 10
  | none => false

/-! ### Resolution -/

/-- A line feed at the end is dropped. -/
def dropLastBreak (cs : List Char) : List Char :=
  if cs.getLast? = some '\n' then cs.dropLast else cs

def resolve (text : List Char) : Tag :=
  let cs := if text == ['\n'] then text else dropLastBreak text
  if isTruth cs then .bool
  else if isFloat cs then .float
  else if isInt cs then .int
  else if cs == ['<', '<'] then .merge
  else if isNull cs then .null
  else if isTimestamp cs then .timestamp
  else if cs == ['='] then .value
  else if cs == ['!'] || cs == ['&'] || cs == ['*'] then .other
  else .text

end Timetable.Yaml
