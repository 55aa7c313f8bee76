import Timetable.Text.Split

/-!
Commands from the arguments of a command line. Options may stand among the other arguments, a value
stands behind its option or is attached to it, and after `--` nothing is an option. Main definition:
`Command.ofArguments?`.
-/
namespace Timetable

/-- The windows that a command is about: expressions, or the name of a schedule. -/
structure Selection where
  ranges : List String
  schedule : Option String
  deriving DecidableEq, Repr

/-- What a command line asks for. A configuration is named by its path. -/
inductive Command where
  | parse (expressions : List String)
  | check (selection : Selection) (instant config : Option String)
  | filter (selection : Selection) (instants : List String) (config : Option String)
  /-- Shows all schedules, and which of them are active at an instant. -/
  | schedules (instant config : Option String)
  deriving DecidableEq, Repr

namespace Command

/-- The options of commands. All of them have values. -/
inductive Key where
  | range | schedule | instant | config
  deriving DecidableEq, Repr

def Key.name : Key → List Char
  | range => "--range".toList
  | schedule => "--schedule".toList
  | instant => "--at".toList
  | config => "--config".toList

def Key.letter? : Key → Option Char
  | range => some 'r'
  | schedule => some 's'
  | instant => none
  | config => some 'c'

/-- An argument, as it counts for a command. -/
inductive Item where
  | argument (text : String)
  | value (key : Key) (text : String)
  deriving DecidableEq, Repr

/-- What an argument is, before its value is known. -/
inductive Form where
  | stop
  | argument
  /-- An option with the value attached to it, if there is one. -/
  | option (key : Key) (attached : Option String)
  | unknown
  deriving DecidableEq, Repr

/-- A text without its front up to a character. -/
def afterFirst (c : Char) (cs : List Char) : Option (List Char) :=
  match cs.dropWhile (· != c) with
  | [] => none
  | _ :: rest => some rest

/-- What an argument is for a command with the given options. -/
def formOf (keys : List Key) (text : String) : Form :=
  match text.toList with
  | ['-', '-'] => .stop
  | '-' :: '-' :: cs =>
      let name := '-' :: '-' :: cs.takeWhile (· != '=')
      match keys.find? fun k => k.name == name with
      | some k => .option k ((afterFirst '=' cs).map String.ofList)
      | none => .unknown
  | '-' :: c :: cs =>
      match keys.find? fun k => k.letter? == some c with
      | some k => .option k (if cs.isEmpty then none else some (String.ofList cs))
      | none => .unknown
  | _ => .argument

/-- The items of arguments. There are none if an option is unknown or a value is missing. -/
def itemsOf (keys : List Key) : List String → Option (List Item)
  | [] => some []
  | text :: rest =>
      match formOf keys text with
      | .stop => some (rest.map .argument)
      | .argument => (itemsOf keys rest).map (.argument text :: ·)
      | .unknown => none
      | .option k (some value) => (itemsOf keys rest).map (.value k value :: ·)
      | .option k none =>
          match rest with
          | [] => none
          | value :: rest => (itemsOf keys rest).map (.value k value :: ·)

def plainArguments (items : List Item) : List String :=
  items.filterMap fun
    | .argument text => some text
    | .value _ _ => none

def valuesOf (key : Key) (items : List Item) : List String :=
  items.filterMap fun
    | .argument _ => none
    | .value k text => if k = key then some text else none

/-- The value of an option that counts once: the last one. -/
def valueOf? (key : Key) (items : List Item) : Option String :=
  (valuesOf key items).getLast?

def selectionOf (items : List Item) : Selection :=
  ⟨valuesOf .range items, valueOf? .schedule items⟩

/-- The command with a name and arguments. Expressions and instants must not be missing, and the other
commands have options only. -/
def ofNamed? (name : String) (arguments : List String) : Option Command :=
  match name with
  | "parse" => do
      let items ← itemsOf [] arguments
      match plainArguments items with
      | [] => none
      | expressions => some (.parse expressions)
  | "check" => do
      let items ← itemsOf [.range, .schedule, .instant, .config] arguments
      match plainArguments items with
      | [] => some (.check (selectionOf items) (valueOf? .instant items) (valueOf? .config items))
      | _ => none
  | "filter" => do
      let items ← itemsOf [.range, .schedule, .config] arguments
      match plainArguments items with
      | [] => none
      | instants => some (.filter (selectionOf items) instants (valueOf? .config items))
  | "schedules" => do
      let items ← itemsOf [.instant, .config] arguments
      match plainArguments items with
      | [] => some (.schedules (valueOf? .instant items) (valueOf? .config items))
      | _ => none
  | _ => none

def asksForReports (text : String) : Bool :=
  match text.toList with
  | '-' :: '-' :: name => name == "verbose".toList
  | '-' :: c :: cs => (c :: cs).all (· == 'v')
  | _ => false

/-- A command from the arguments of a command line, and whether more reports are wanted. Options that
stand before the command are options of all commands. -/
def ofArguments? (verbose : Bool) : List String → Option (Bool × Command)
  | [] => none
  | text :: rest =>
      if text == "--" then
        match rest with
        | [] => none
        | name :: arguments => (ofNamed? name arguments).map (verbose, ·)
      else if asksForReports text then ofArguments? true rest
      else (ofNamed? text rest).map (verbose, ·)

end Command

end Timetable
