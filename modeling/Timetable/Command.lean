import Timetable.Checker
import Timetable.Command.Arguments
import Timetable.Config.File
import Timetable.Markup
import Timetable.Page.Table

/-!
What commands answer: the lines that they print and the number with which they exit. Everything that is
printed passes through the markup of texts, also what the user has written. Main definition:
`Command.run`.
-/
namespace Timetable

namespace Command

/-- The answer of a command. -/
structure Report where
  exit : Nat
  lines : List String
  deriving DecidableEq, Repr

def exitWithin : Nat := 0

def exitOutside : Nat := 1

def exitError : Nat := 2

/-- The exit of a program that a trouble ends. -/
def exitBroken : Nat := 1

def pageWidth : Nat := 1000

/-- What commands take from the libraries below them and what is not decided here. -/
structure Host where
  /-- What the reader of documents says of the document at a path that it cannot read. -/
  complaint : String → String
  /-- Does the action of a tag take the given parameters? -/
  takes : List Char → Bool

/-- What keeps a command from its answer. -/
inductive Trouble where
  | load (path : String) (e : Config.LoadError)
  | bothSelections
  | noSelection
  | schedule (e : Config.ScheduleError)
  | expression (e : Expression.Fault)
  | stamp (e : StampError)
  | markup (e : Markup.Error)
  /-- An instant has no long form. The lines are those that are printed before. -/
  | noIsoText (lines : List String)

def Trouble.message (h : Host) : Trouble → String
  | load path e => e.message path (h.complaint path)
  | bothSelections => "Use either --range or --schedule, not both."
  | noSelection => "Provide at least one --range or a --schedule."
  | schedule e => e.message
  | expression e => e.message
  | stamp e => e.message
  | markup _ => "The text cannot be shown."
  | noIsoText _ => StampError.offset.message

/-- The lines that are printed before a trouble comes up. -/
def Trouble.linesBefore : Trouble → List String
  | noIsoText lines => lines
  | _ => []

/-! ### Troubles that are foreseen -/

/-- A document may be wrong in ways that are not foreseen: codes of more than 31 bits, numbers without
digits, truth values that are neither, and texts that are no timestamps. -/
def isForeseenInDocument : Yaml.Error → Bool
  | .wideEscape => false
  | .emptyNumber => false
  | .notTruth _ => false
  | .notTimestamp => false
  | _ => true

/-- A file may be wrong in ways that are not foreseen: it is a folder, or a field has no name. -/
def isForeseenInFile : Config.LoadError → Bool
  | .missing => true
  | .folder => false
  | .document e => isForeseenInDocument e
  | .notMapping => true
  | .data .fieldName => false
  | .data (.invalid _) => true

/-- An expression may be faulty in ways that are not foreseen. -/
def isForeseenInExpression : Expression.Fault → Bool
  | .time .beyondLong => false
  | .time .aboveInt => false
  | .time .belowInt => false
  | .notText _ => false
  | _ => true

/-- A text may stand for no instant in ways that are not foreseen. -/
def isForeseenInStamp : StampError → Bool
  | .noMinute => false
  | .outOfCalendar => false
  | .periodAtDate _ => false
  | .periodAtClock _ => false
  | .clockInterval => false
  | _ => true

/-- Foreseen troubles are shown as errors; the others end the program. -/
def Trouble.isForeseen : Trouble → Bool
  | load _ e => isForeseenInFile e
  | bothSelections => true
  | noSelection => true
  | schedule (.expression e) => isForeseenInExpression e
  | schedule _ => true
  | expression e => isForeseenInExpression e
  | stamp e => isForeseenInStamp e
  | markup _ => false
  | noIsoText _ => false

/-! ### Printing -/

def shown (h : Host) (text : String) : Except Trouble (List Char) :=
  (Markup.plain h.takes text.toList).mapError .markup

def printed (h : Host) (text : String) : Except Trouble (List String) :=
  (shown h text).map fun cs => (Page.wrap .fold pageWidth cs).map String.ofList

/-- Rows of marked up cells as they are shown. -/
def shownRows (h : Host) : List (List String) → Except Trouble (List (List (List Char)))
  | [] => .ok []
  | row :: rows => do
      let cells ← row.mapM (shown h)
      let rest ← shownRows h rows
      return cells :: rest

/-- The lines of a table of marked up cells, with an empty line before it and after it. -/
def printedTable (h : Host) (title : String) (headings : List String) (rows : List (List String)) :
    Except Trouble (List String) := do
  let rows ← shownRows h rows
  let table : Page.Table := ⟨title.toList, headings.map String.toList, rows⟩
  return [""] ++ table.lines.map String.ofList ++ [""]

def Trouble.line (h : Host) (t : Trouble) : String :=
  "[bold red]Error:[/bold red] " ++ t.message h

def troubleReport (h : Host) (t : Trouble) : Except Trouble Report := do
  return ⟨exitError, ← printed h (t.line h)⟩

/-- Does a part of a command and goes on with what comes of it. A foreseen trouble ends the command with
a report. -/
def orReport {α : Type} (h : Host) (part : Except Trouble α) (next : α → Except Trouble Report) :
    Except Trouble Report :=
  match part with
  | .ok a => next a
  | .error t => if t.isForeseen then troubleReport h t else .error t

/-! ### Parts of commands -/

def nonempty (text : Option String) : Option String :=
  text.filter fun s => !s.isEmpty

/-- The configuration of a command: the one at the given path, or else the one of the folder, or else
the one without data. -/
def loadConfig (f : Folder) : Option String → Except Trouble Config
  | some path =>
      let path := Folder.normalPath path
      (Config.ofEntry (f.entry path)).mapError (.load path)
  | none => match f.configEntry with
      | (_, .missing) => .ok .default
      | (path, e) => (Config.ofEntry e).mapError (.load path)

/-- The windows that a command is about, either by expressions or by the name of a schedule. -/
def resolve (c : Config) (s : Selection) : Except Trouble WindowSet :=
  match s.ranges, nonempty s.schedule with
  | _ :: _, some _ => .error .bothSelections
  | _, some name => (c.schedule name).mapError .schedule
  | [], none => .error .noSelection
  | ranges, none => (Config.setOf ranges).mapError .schedule

/-- The instant of a command: the one that a text stands for, or else the current one. -/
def instantOf (c : Config) (now : Instant) (text : Option String) : Except Trouble Instant :=
  match nonempty text with
  | some text => (Instant.read text c.timezone now).mapError .stamp
  | none => (Reading.current c.timezone now).mapError .stamp

/-- The instants that texts stand for, all of which have to be readable. -/
def instantsOf (c : Config) (now : Instant) : List String → Except Trouble (List Instant)
  | [] => .ok []
  | text :: texts => do
      let i ← (Instant.read text c.timezone now).mapError .stamp
      let is ← instantsOf c now texts
      return i :: is

/-! ### Commands -/

/-- The row of an expression: its parts, and its written form. -/
def expressionRow (text : String) : Expression.Reading → Except Trouble (List String)
  | .faulty e => .error (.expression e)
  | .rejected _ => .ok [text, "", "", "", "[red]invalid[/red]"]
  | .accepted w =>
      let time (t : Span → TimeOfDay) : String :=
        match w.span with
        | some s => String.ofList (t s).clockText
        | none => "-"
      .ok [text, (w.weekday.map Weekday.name).getD "any", time Span.start, time Span.stop, w.render]

def countRejected (texts : List String) : Nat :=
  texts.countP fun t => match Expression.read t with
    | .rejected _ => true
    | _ => false

/-- The command `parse`. -/
def runParse (h : Host) (expressions : List String) : Except Trouble Report := do
  let rows ← expressions.mapM fun t => expressionRow t (Expression.read t)
  let table ← printedTable h "Parsed ranges" ["Expression", "Weekday", "Start", "End", "Canonical"] rows
  match countRejected expressions with
  | 0 => return ⟨exitWithin, table⟩
  | n =>
      let line ← printed h ("[bold red]✗ " ++ String.ofList (Text.decimal n) ++
        " invalid expression(s)[/bold red]")
      return ⟨exitOutside, table ++ line⟩

def verdictText (s : WindowSet) (label : String) (i : Instant) : String :=
  let instant := i.weekday.name ++ " " ++ String.ofList i.dateTimeText
  if s.contains i then "[green]✓ " ++ instant ++ " is within " ++ label ++ "[/green]"
  else "[yellow]✗ " ++ instant ++ " is outside " ++ label ++ "[/yellow]"

def verdict (h : Host) (s : WindowSet) (label : String) (i : Instant) : Except Trouble Report := do
  return ⟨if s.contains i then exitWithin else exitOutside, ← printed h (verdictText s label i)⟩

/-- What the command `check` is about: the windows and the instant. -/
def checkInput (f : Folder) (now : Instant) (selection : Selection) (instant config : Option String) :
    Except Trouble (WindowSet × Instant) := do
  let c ← loadConfig f config
  let s ← resolve c selection
  return (s, ← instantOf c now instant)

/-- The command `check`. -/
def runCheck (h : Host) (f : Folder) (now : Instant) (selection : Selection)
    (instant config : Option String) : Except Trouble Report :=
  orReport h (checkInput f now selection instant config) fun (s, i) =>
    verdict h s ((nonempty selection.schedule).getD s.render) i

/-- What the command `filter` is about: the windows and the instants. -/
def filterInput (f : Folder) (now : Instant) (selection : Selection) (instants : List String)
    (config : Option String) : Except Trouble (WindowSet × List Instant) := do
  let c ← loadConfig f config
  let s ← resolve c selection
  return (s, ← instantsOf c now instants)

/-- The instants at which windows are open, each on a line, up to the first that has no long form. -/
def matching (h : Host) (s : WindowSet) (is : List Instant) : Except Trouble Report := do
  let found := s.select is
  let lines ← (found.takeWhile Instant.hasIsoText).mapM fun i => printed h (String.ofList i.isoText)
  if found.all Instant.hasIsoText then
    return ⟨if found.isEmpty then exitOutside else exitWithin, lines.flatten⟩
  else .error (.noIsoText lines.flatten)

/-- The command `filter`. -/
def runFilter (h : Host) (f : Folder) (now : Instant) (selection : Selection) (instants : List String)
    (config : Option String) : Except Trouble Report :=
  orReport h (filterInput f now selection instants config) fun (s, is) => matching h s is

def scheduleRow (active : List String) (s : String × WindowSet) : List String :=
  [s.1, s.2.render, if active.contains s.1 then "[green]yes[/green]" else "no"]

/-- What the command `schedules` is about: the schedules and the instant. -/
def schedulesInput (f : Folder) (now : Instant) (instant config : Option String) :
    Except Trouble (Checker × Instant) := do
  let c ← loadConfig f config
  let k ← (Checker.ofConfig c).mapError .schedule
  return (k, ← instantOf c now instant)

/-- The table of the schedules of a checker, with those that are active at an instant. -/
def scheduleTable (h : Host) (k : Checker) (i : Instant) : Except Trouble (List String) :=
  printedTable h ("Schedules at " ++ String.ofList i.dateTimeText) ["Name", "Ranges", "Active"]
    (k.schedules.map (scheduleRow (k.activeAt i)))

/-- The schedules of a checker with those that are active at an instant, if there are schedules. -/
def overview (h : Host) (k : Checker) (i : Instant) : Except Trouble Report := do
  if k.schedules.isEmpty then
    return ⟨exitWithin, ← printed h "[yellow]No schedules defined in the config file.[/yellow]"⟩
  return ⟨exitWithin, ← scheduleTable h k i⟩

/-- The command `schedules`. -/
def runSchedules (h : Host) (f : Folder) (now : Instant) (instant config : Option String) :
    Except Trouble Report :=
  orReport h (schedulesInput f now instant config) fun (k, i) => overview h k i

/-- The answer of a command in a folder at a time, which is given on the clock of universal time. -/
def run (h : Host) (f : Folder) (now : Instant) : Command → Except Trouble Report
  | .parse expressions => runParse h expressions
  | .check selection instant config => runCheck h f now selection instant config
  | .filter selection instants config => runFilter h f now selection instants config
  | .schedules instant config => runSchedules h f now instant config

def paths : Command → List String
  | .parse _ => []
  | .check _ _ config => [config.getD Folder.configName]
  | .filter _ _ config => [config.getD Folder.configName]
  | .schedules _ config => [config.getD Folder.configName]

def answer (h : Host) (f : Folder) (now : Instant) (arguments : List String) : Except Trouble Report :=
  match ofArguments? false arguments with
  | some (_, command) => run h f now command
  | none => .ok ⟨exitError, []⟩

/-- The number with which the program exits. A trouble that is not foreseen ends it without a report. -/
def exitNumber : Except Trouble Report → Nat
  | .ok report => report.exit
  | .error _ => exitBroken

end Command

end Timetable
