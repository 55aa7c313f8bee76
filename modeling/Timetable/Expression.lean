import Timetable.Instant

/-!
Expressions: the text form of a window. An expression is an optional weekday followed by an optional
pair of times with a dash between them, with blanks around the parts. Main definitions: `Tokens.scan`
takes an expression apart, and `Expression.read` decides what it stands for.
-/
namespace Timetable

/-- The parts of an expression, as they stand in its text. -/
structure Tokens where
  weekday : Option (List Char)
  start : Option (List Char)
  stop : Option (List Char)
  deriving DecidableEq, Repr

namespace Tokens

/-- A character stands for a lower case letter of a name: the letter in either case, the long `ſ`
for `s`, and the dotless and the dotted `i` for `i`. -/
def standsFor (letter c : Char) : Bool :=
  c.toLower == letter || (letter == 's' && c == 'ſ') || (letter == 'i' && (c == 'ı' || c == 'İ'))

/-- Takes a name from the front of a text: the characters that stand for it, and the rest. -/
def takeName : List Char → List Char → Option (List Char × List Char)
  | [], cs => some ([], cs)
  | _ :: _, [] => none
  | letter :: letters, c :: cs =>
      if standsFor letter c then (takeName letters cs).map fun r => (c :: r.1, r.2) else none

/-- The names of the weekdays, each full name before its abbreviation. -/
def names : List (List Char) :=
  Weekday.all.flatMap fun d => [d.lowerName, d.lowerAbbreviation]

def takeWeekday (cs : List Char) : Option (List Char × List Char) :=
  names.findSome? fun letters => takeName letters cs

/-- A digit from `0` to `5`. -/
def isSixth (c : Char) : Bool :=
  c.isDigit && decide (c.toNat ≤ '5'.toNat)

/-- Two digits for the hour: `00` to `23`. -/
def isHour (a b : Char) : Bool :=
  ((a == '0' || a == '1') && b.isDigit) || (a == '2' && b.isDigit && decide (b.toNat ≤ '3'.toNat))

/-- Takes a colon and two digits from `00` to `59`. -/
def takeSixtieth : List Char → Option (List Char × List Char)
  | ':' :: a :: b :: cs => if isSixth a && b.isDigit then some ([':', a, b], cs) else none
  | _ => none

/-- Takes an hour of one or two digits; a colon has to follow. -/
def takeHour : List Char → Option (List Char × List Char)
  | a :: ':' :: cs => if a.isDigit then some ([a], ':' :: cs) else none
  | a :: b :: ':' :: cs => if isHour a b then some ([a, b], ':' :: cs) else none
  | _ => none

/-- Takes a time: an hour, minutes, and seconds if they follow. -/
def takeTime (cs : List Char) : Option (List Char × List Char) :=
  match takeHour cs with
  | none => none
  | some (hour, cs) =>
      match takeSixtieth cs with
      | none => none
      | some (minute, cs) =>
          match takeSixtieth cs with
          | none => some (hour ++ minute, cs)
          | some (second, cs) => some (hour ++ minute ++ second, cs)

/-- Takes a pair of times with a dash between them, blanks allowed around the dash. -/
def takeTimes (cs : List Char) : Option ((List Char × List Char) × List Char) :=
  match takeTime cs with
  | none => none
  | some (start, cs) =>
      match Text.trimStart cs with
      | '-' :: cs =>
          match takeTime (Text.trimStart cs) with
          | none => none
          | some (stop, cs) => some ((start, stop), cs)
      | _ => none

/-- The parts of a whole text, if the text is an expression; a text of blanks has no parts. -/
def scan (cs : List Char) : Option Tokens :=
  let cs := Text.trimStart cs
  let (weekday, cs) := match takeWeekday cs with
    | some (name, rest) => (some name, rest)
    | none => (none, cs)
  let cs := Text.trimStart cs
  if cs.isEmpty then some ⟨weekday, none, none⟩
  else match takeTimes cs with
    | some ((start, stop), rest) =>
        if Text.allBlank rest then some ⟨weekday, some start, some stop⟩ else none
    | none => none

end Tokens

namespace Expression

/-- Why an expression stands for no window. -/
inductive Rejection where
  | blank
  | grammar
  /-- The expression names neither a weekday nor times. -/
  | nothing
  | unpaired
  | order
  deriving DecidableEq, Repr

def Rejection.reason : Rejection → String
  | blank => "empty expression"
  | grammar => "does not match grammar"
  | nothing => "no weekday or times"
  | unpaired => "times must come in pairs"
  | order => "start time must be before end time"

/-- What goes wrong when the parts of an expression are read. -/
inductive Fault where
  | weekday (e : Weekday.Unknown)
  | time (e : TimeOfDay.ReadError)
  | window (e : WindowError)
  /-- What should be read is no text but a value of another kind. -/
  | notText (kind : String)
  deriving DecidableEq, Repr

def Fault.message : Fault → String
  | weekday e => e.message
  | time e => e.message
  | window e => e.message
  | notText kind => "'" ++ kind ++ "' object has no attribute 'strip'"

/-- What an expression stands for. -/
inductive Reading where
  | accepted (w : Window)
  | rejected (r : Rejection)
  | faulty (e : Fault)
  deriving DecidableEq, Repr

def readWeekday : Option (List Char) → Except Fault (Option Weekday)
  | none => .ok none
  | some cs => (Weekday.read (String.ofList cs)).mapError .weekday

def readTime : Option (List Char) → Except Fault (Option TimeOfDay)
  | none => .ok none
  | some cs => (TimeOfDay.read (String.ofList cs)).mapError .time

/-- Decides what the parts of an expression stand for once they are read. -/
def judge (weekday : Option Weekday) (start stop : Option TimeOfDay) : Reading :=
  if weekday.isNone && start.isNone && stop.isNone then .rejected .nothing
  else if start.isNone != stop.isNone then .rejected .unpaired
  else
    let disordered := match start, stop with
      | some s, some e => !decide (s < e)
      | _, _ => false
    if disordered then .rejected .order
    else match Window.make weekday start stop with
      | .ok w => .accepted w
      | .error e => .faulty (.window e)

def ofTokens (t : Tokens) : Reading :=
  match readWeekday t.weekday with
  | .error e => .faulty e
  | .ok weekday =>
      match readTime t.start with
      | .error e => .faulty e
      | .ok start =>
          match readTime t.stop with
          | .error e => .faulty e
          | .ok stop => judge weekday start stop

def read (text : String) : Reading :=
  if Text.allBlank text.toList then .rejected .blank
  else match Tokens.scan text.toList with
    | none => .rejected .grammar
    | some t => ofTokens t

end Expression

end Timetable
