import Timetable.Config.Issue
import Timetable.Level
import Timetable.WindowSet
import Timetable.Word
import Timetable.Zone

/-!
Configurations: a time zone, a level of reports, and named schedules, each a list of expressions.
Names are compared without regard to letter case. Main definitions: `Config.ofEntries` checks data of
any kind, and `Config.schedule` looks a schedule up.
-/
namespace Timetable

/-- A schedule as it is configured: its name and its expressions. -/
abbrev Schedule := String × List String

/-- A configuration. -/
structure Config where
  timezone : String
  logLevel : String
  schedules : List Schedule
  deriving DecidableEq, Repr

def sameName (a b : String) : Bool :=
  Text.lower a == Text.lower b

namespace Config

/-- The configuration without any data. -/
def default : Config := ⟨"UTC", "WARNING", []⟩

/-! ### Checks of single fields -/

def checkZone (name : String) : Except Refusal String :=
  if Zone.isName name then .ok name else .error (.zone name)

/-- A level has to be known; it is kept in upper case. -/
def checkLevel (name : String) : Except Refusal String :=
  match Level.ofName? (Text.upper name) with
  | some _ => .ok (Text.upper name)
  | none => .error (.logLevel name)

/-- The expressions of a schedule that are not accepted, in order. -/
def rejectedExpressions (texts : List String) : Except Expression.Fault (List String) :=
  WindowSet.rejectedItems Expression.read texts

/-- Looks through schedules for a repeated name, which ends the search, and for expressions that are
not accepted, which are collected. `seen` holds the lower case names so far. -/
def collectProblems (seen : List String) :
    List Schedule → Except Refusal (List (String × List String))
  | [] => .ok []
  | (name, texts) :: schedules =>
      if seen.contains (Text.lower name) then .error (.duplicate name)
      else match rejectedExpressions texts with
        | .error e => .error (.fault e)
        | .ok rejected =>
            match collectProblems (Text.lower name :: seen) schedules with
            | .error e => .error e
            | .ok problems =>
                .ok (if rejected.isEmpty then problems else (name, rejected) :: problems)

/-- Names of schedules have to differ, and all expressions have to be accepted. -/
def checkSchedules (schedules : List Schedule) : Except Refusal (List Schedule) :=
  match collectProblems [] schedules with
  | .error e => .error e
  | .ok [] => .ok schedules
  | .ok problems => .error (.expressions problems)

/-! ### Kinds of values -/

/-- A text; bytes are taken as text if they are the text's encoding. -/
def textOf : Value → Except IssueKind String
  | .text s => .ok s
  | .bytes bs => match String.fromUTF8? ⟨bs.toArray⟩ with
      | some s => .ok s
      | none => .error .brokenText
  | _ => .error .notText

/-- The items of a list; other collections than mappings count as lists. -/
def listOf : Value → Except IssueKind (List Value)
  | .list items => .ok items
  | .tuple items => .ok items
  | .set items => .ok items
  | _ => .error .notList

def keyPlace : Value → Place
  | .text s => .name s
  | .bool b => .number (if b then 1 else 0)
  | .int n => if Word.fits Word.bound64 n then .number n else .name (Value.reported (.int n))
  | v => .name v.reported

/-- Checks done one after the other: either all results, or all issues. -/
def collect {α β : Type} (check : α → Except (List Issue) β) : List α → Except (List Issue) (List β)
  | [] => .ok []
  | a :: as =>
      match check a, collect check as with
      | .ok b, .ok bs => .ok (b :: bs)
      | .ok _, .error issues => .error issues
      | .error issues, .ok _ => .error issues
      | .error issues, .error more => .error (issues ++ more)

/-- All results are there exactly if every single check has one. -/
theorem collect_eq_ok_iff {α β : Type} {check : α → Except (List Issue) β} {as : List α}
    {bs : List β} : collect check as = .ok bs ↔ as.map check = bs.map .ok := by
  induction as generalizing bs with
  | nil => cases bs <;> simp [collect]
  | cons a as ih =>
      cases ha : check a with
      | error issues =>
          cases has : collect check as <;> cases bs <;> simp [collect, ha, has]
      | ok b =>
          cases has : collect check as with
          | ok more =>
              have hmore := ih.mp has
              cases bs with
              | nil => simp [collect, ha, has]
              | cons b' bs' =>
                  simp only [collect, ha, has, Except.ok.injEq, List.cons.injEq, List.map_cons]
                  refine and_congr Iff.rfl ⟨fun h => h ▸ hmore, fun h => ?_⟩
                  exact Except.ok.inj (has.symm.trans (ih.mpr h))
          | error issues =>
              cases bs with
              | nil => simp [collect, ha, has]
              | cons b' bs' =>
                  simp only [collect, ha, has, List.map_cons, List.cons.injEq, reduceCtorEq,
                    false_iff, not_and]
                  intro _ h
                  exact absurd (has.symm.trans (ih.mpr h)) (by simp)

def textAt (path : List Place) (v : Value) : Except (List Issue) String :=
  match textOf v with
  | .ok s => .ok s
  | .error kind => .error [⟨kind, path, v⟩]

def numbered (items : List Value) : List (Int × Value) :=
  (items.zipIdx).map fun p => ((p.2 : Int), p.1)

def textsAt (path : List Place) (v : Value) : Except (List Issue) (List String) :=
  match listOf v with
  | .error kind => .error [⟨kind, path, v⟩]
  | .ok items => collect (fun p => textAt (path ++ [.number p.1]) p.2) (numbered items)

def scheduleOf (entry : Value × Value) : Except (List Issue) Schedule :=
  let path := [.name "schedules", keyPlace entry.1]
  match textAt (path ++ [.name "[key]"]) entry.1, textsAt path entry.2 with
  | .ok name, .ok texts => .ok (name, texts)
  | .ok _, .error issues => .error issues
  | .error issues, .ok _ => .error issues
  | .error issues, .error more => .error (issues ++ more)

/-- A list of schedules with one more: a name that is there already keeps its place and takes the new
expressions. -/
def insertSchedule (s : Schedule) : List Schedule → List Schedule
  | [] => [s]
  | t :: ts => if t.1 = s.1 then (t.1, s.2) :: ts else t :: insertSchedule s ts

def schedulesOf (v : Value) : Except (List Issue) (List Schedule) :=
  match v with
  | .map entries =>
      (collect scheduleOf entries).map fun ss => ss.foldl (fun acc s => insertSchedule s acc) []
  | v => .error [⟨.notMapping, [.name "schedules"], v⟩]

/-! ### Whole configurations -/

/-- Why data are no configuration. -/
inductive DataError where
  | fieldName
  | invalid (issues : List Issue)

def DataError.message : DataError → String
  | fieldName => "keywords must be strings"
  | invalid issues => reportText issues

def field? (name : String) (entries : List (Value × Value)) : Option Value :=
  (entries.find? fun e => match e.1 with
    | .text s => s == name
    | _ => false).map (·.2)

/-- A field: its default if it is missing, else its value, first of the right kind and then
checked. -/
def readField {α : Type} (name : String) (default : α) (kind : Value → Except (List Issue) α)
    (check : α → Except Refusal α) (entries : List (Value × Value)) : Except (List Issue) α :=
  match field? name entries with
  | none => .ok default
  | some v =>
      match kind v with
      | .error issues => .error issues
      | .ok a => match check a with
          | .ok b => .ok b
          | .error r => .error [⟨.refused r, [.name name], v⟩]

def issuesOf {α : Type} : Except (List Issue) α → List Issue
  | .ok _ => []
  | .error issues => issues

/-- The configuration with the given fields. Fields of other names are left aside. -/
def ofEntries (entries : List (Value × Value)) : Except DataError Config :=
  let named := entries.all fun e => match e.1 with
    | .text _ => true
    | _ => false
  if !named then .error .fieldName
  else
    let timezone := readField "timezone" default.timezone (textAt [.name "timezone"]) checkZone entries
    let logLevel := readField "log_level" default.logLevel (textAt [.name "log_level"]) checkLevel entries
    let schedules := readField "schedules" default.schedules schedulesOf checkSchedules entries
    match timezone, logLevel, schedules with
    | .ok z, .ok l, .ok ss => .ok ⟨z, l, ss⟩
    | z, l, ss => .error (.invalid (issuesOf z ++ issuesOf l ++ issuesOf ss))

def entries (c : Config) : List (Value × Value) :=
  [(.text "timezone", .text c.timezone), (.text "log_level", .text c.logLevel),
    (.text "schedules", .map (c.schedules.map fun s => (.text s.1, .list (s.2.map .text))))]

/-! ### Schedules -/

/-- A name that no schedule has. -/
structure UnknownSchedule where
  name : String
  deriving DecidableEq, Repr

def UnknownSchedule.message (e : UnknownSchedule) : String :=
  "Unknown schedule: '" ++ e.name ++ "'"

def find? (c : Config) (name : String) : Option Schedule :=
  c.schedules.find? fun s => sameName s.1 name

def findName? (c : Config) (name : String) : Option String :=
  (c.find? name).map (·.1)

/-- Why a schedule gives no set of windows. -/
inductive ScheduleError where
  | unknown (e : UnknownSchedule)
  | expression (e : Expression.Fault)
  | rejected (texts : List String)
  deriving DecidableEq, Repr

def ScheduleError.message : ScheduleError → String
  | unknown e => e.message
  | expression e => e.message
  | rejected texts =>
      "Invalid weekday/time range expression(s): " ++ Text.join ", " (texts.map Text.quote)

/-- The set of windows of a list of expressions, all of which have to be accepted. -/
def setOf (texts : List String) : Except ScheduleError WindowSet :=
  match WindowSet.readItems Expression.read texts with
  | .accepted s => .ok s
  | .faulty e => .error (.expression e)
  | .rejected _ _ => match rejectedExpressions texts with
      | .error e => .error (.expression e)
      | .ok rejected => .error (.rejected rejected)

def schedule (c : Config) (name : String) : Except ScheduleError WindowSet :=
  match c.find? name with
  | none => .error (.unknown ⟨name⟩)
  | some s => setOf s.2

def setsOf : List Schedule → Except ScheduleError (List (String × WindowSet))
  | [] => .ok []
  | (name, texts) :: schedules =>
      match setOf texts with
      | .error e => .error e
      | .ok s => (setsOf schedules).map ((name, s) :: ·)

/-- The sets of windows of all schedules, under their names and in their order. -/
def scheduleSets (c : Config) : Except ScheduleError (List (String × WindowSet)) :=
  setsOf c.schedules

end Config

end Timetable
