import Timetable.Config
import Timetable.Notice
import Timetable.Stamp

/-!
Checkers: named sets of windows that are asked which of them are open. A question about the current
time consults a clock. Main definitions: `Checker.ask` answers one question, and `Checker.askAll`
answers questions one after the other and keeps track of the consultations.
-/
namespace Timetable

/-- A clock: what it shows for a time zone when it is consulted after `n` other consultations. -/
abbrev Clock := Nat → String → Except StampError Instant

namespace Clock

/-- A clock that shows given instants one after the other, and then the last one for ever. -/
def script (first : Instant) (rest : List Instant) : Clock :=
  fun n _ => .ok ((first :: rest).getD n ((first :: rest).getLast (by simp)))

/-- A clock that shows one moment, given on the clock of universal time. -/
def system (now : Instant) : Clock :=
  fun _ zone => Reading.current zone now

end Clock

/-- Named sets of windows, and the time zone in which the clock is consulted. -/
structure Checker where
  schedules : List (String × WindowSet)
  timezone : String
  deriving DecidableEq, Repr

/-- A question to a checker. An instant that is not given is the current one. -/
inductive Question where
  | names
  | schedule (name : String)
  | now
  | isActive (name : String) (instant : Option Instant)
  | active (instant : Option Instant)
  | select (name : String) (instants : List Instant)
  deriving DecidableEq, Repr

/-- An answer of a checker. -/
inductive Answer where
  | names (names : List String)
  | windows (s : WindowSet)
  | instant (i : Instant)
  | truth (b : Bool)
  | instants (is : List Instant)
  deriving DecidableEq, Repr

/-- Why a question has no answer. -/
inductive Question.Failure where
  | unknown (e : Config.UnknownSchedule)
  | clock (e : StampError)
  deriving DecidableEq, Repr

def Question.Failure.message : Question.Failure → String
  | unknown e => e.message
  | clock e => e.message

/-- What comes of a question: the answer, what is reported, and the time zones for which the clock has
been consulted up to now. -/
structure Turn where
  outcome : Except Question.Failure Answer
  notices : List Notice
  consulted : List String

namespace Checker

/-- A name with its set, entered into a list: a name that is there already keeps its place and takes
the new set. -/
def insert (name : String) (s : WindowSet) : List (String × WindowSet) → List (String × WindowSet)
  | [] => [(name, s)]
  | (n, t) :: rest => if n = name then (n, s) :: rest else (n, t) :: insert name s rest

def ofList (schedules : List (String × WindowSet)) (timezone : String) : Checker :=
  ⟨schedules.foldl (fun acc s => insert s.1 s.2 acc) [], timezone⟩

def ofConfig (c : Config) : Except Config.ScheduleError Checker :=
  c.scheduleSets.map fun sets => ⟨sets, c.timezone⟩

def names (k : Checker) : List String := k.schedules.map (·.1)

/-- The set under a name, without regard to letter case. -/
def find? (k : Checker) (name : String) : Option WindowSet :=
  (k.schedules.find? fun s => sameName s.1 name).map (·.2)

def schedule (k : Checker) (name : String) : Except Config.UnknownSchedule WindowSet :=
  match k.find? name with
  | some s => .ok s
  | none => .error ⟨name⟩

def isActiveAt (k : Checker) (name : String) (i : Instant) : Except Config.UnknownSchedule Bool :=
  (k.schedule name).map fun s => s.contains i

/-- The names of the schedules that are open at an instant, in their order. -/
def activeAt (k : Checker) (i : Instant) : List String :=
  (k.schedules.filter fun s => s.2.contains i).map (·.1)

/-- The instants at which the schedule with a name is open, in the given order. -/
def select (k : Checker) (name : String) (is : List Instant) :
    Except Config.UnknownSchedule (List Instant) :=
  (k.schedule name).map fun s => s.select is

/-- The instant of a question: the given one, or else what the clock shows. -/
def resolve (k : Checker) (clock : Clock) (consulted : List String) :
    Option Instant → Except StampError Instant × List String
  | some i => (.ok i, consulted)
  | none => (clock consulted.length k.timezone, consulted ++ [k.timezone])

/-- A turn without reports. -/
def quiet (outcome : Except Question.Failure Answer) (consulted : List String) : Turn :=
  ⟨outcome, [], consulted⟩

/-- A question about one schedule: its name is looked up before the clock is consulted. -/
def askActive (k : Checker) (clock : Clock) (consulted : List String) (name : String)
    (instant : Option Instant) : Turn :=
  match k.schedule name with
  | .error e => quiet (.error (.unknown e)) consulted
  | .ok s =>
      let (found, consulted) := k.resolve clock consulted instant
      match found with
      | .error e => quiet (.error (.clock e)) consulted
      | .ok i => ⟨.ok (.truth (s.contains i)), [.checked name i (s.contains i)], consulted⟩

/-- Answers a question after the clock was consulted for the given time zones. -/
def ask (k : Checker) (clock : Clock) (consulted : List String) : Question → Turn
  | .names => quiet (.ok (.names k.names)) consulted
  | .schedule name =>
      quiet (((k.schedule name).map .windows).mapError .unknown) consulted
  | .now =>
      let (found, consulted) := k.resolve clock consulted none
      quiet ((found.map .instant).mapError .clock) consulted
  | .isActive name instant => k.askActive clock consulted name instant
  | .active instant =>
      let (found, consulted) := k.resolve clock consulted instant
      quiet ((found.map fun i => .names (k.activeAt i)).mapError .clock) consulted
  | .select name is =>
      quiet (((k.select name is).map .instants).mapError .unknown) consulted

def askAll (k : Checker) (clock : Clock) (consulted : List String) : List Question → List Turn
  | [] => []
  | q :: qs =>
      let turn := k.ask clock consulted q
      turn :: k.askAll clock turn.consulted qs

end Checker

end Timetable
