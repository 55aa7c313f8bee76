import Timetable.Text.Split

/-!
Folders: the files that a command can read, and the paths that lead to them. Main definition:
`Folder.entry`, what stands at a path.
-/
namespace Timetable

/-- What stands at a path. -/
inductive FileEntry where
  | missing
  | folder
  | file (text : String)
  deriving DecidableEq, Repr

/-- A folder: its own path, and what stands at paths that are seen from it. The program stands in a folder
of its own, which may hold a configuration for folders without one. -/
structure Folder where
  path : String
  entries : List (String × FileEntry)
  programPath : String
  programEntry : FileEntry
  deriving DecidableEq, Repr

namespace Folder

/-- The root of a path: two slashes stand for themselves, and any other number counts as one. -/
def rootOf (cs : List Char) : List Char :=
  match (cs.takeWhile (· == '/')).length with
  | 0 => []
  | 2 => ['/', '/']
  | _ => ['/']

/-- The steps of a path. Empty steps and single points lead nowhere. -/
def steps (cs : List Char) : List (List Char) :=
  (Text.splitAt '/' cs).filter fun step => !step.isEmpty && step != ['.']

/-- A path without steps that lead nowhere. -/
def normalPath (path : String) : String :=
  let cs := path.toList
  match rootOf cs, steps cs with
  | [], [] => "."
  | root, parts => String.ofList (root ++ Text.joinWith ['/'] parts)

def entry (f : Folder) (path : String) : FileEntry :=
  match f.entries.find? fun e => e.1 == normalPath path with
  | some e => e.2
  | none =>
      if (steps path.toList).all (· == ['.', '.']) then .folder else .missing

/-- The name of the file that holds a configuration if no other is asked for. -/
def configName : String := "config.yaml"

/-- The path of the configuration of a folder, and what stands there; without one it is that of the
program. -/
def configEntry (f : Folder) : String × FileEntry :=
  match f.entry configName with
  | .missing => (f.programPath ++ "/" ++ configName, f.programEntry)
  | e => (f.path ++ "/" ++ configName, e)

end Folder

end Timetable
