import Std.Time.DateTime.Timestamp
import Timetable.Command

/-!
The program: reads the files that a command may need and the clock, prints the answer, and exits with
its number.
-/
namespace Timetable.Main

def currentInstant : IO Instant := do
  let now ← Std.Time.Timestamp.now
  let nanoseconds : Int := now.toNanosecondsSinceUnixEpoch.val
  match Instant.ofEpoch? (nanoseconds / 1000) with
  | some i => return i
  | none => throw (IO.userError "The clock shows no date of the calendar.")

def entryAt (path : String) : IO FileEntry := do
  let place := (← IO.currentDir) / path
  if ← place.isDir then return .folder
  else if ← place.pathExists then return .file (← IO.FS.readFile place)
  else return .missing

/-- The current folder, with what stands at the given paths, and the folder of the program. -/
def currentFolder (paths : List String) : IO Folder := do
  let entries ← paths.mapM fun path => do
    let path := Folder.normalPath path
    return (path, ← entryAt path)
  let programPath := (← IO.appDir).toString
  let programEntry ← entryAt (programPath ++ "/" ++ Folder.configName)
  return ⟨(← IO.currentDir).toString, entries, programPath, programEntry⟩

/-- Nothing more is said of what is no document, and actions take whatever they are given. -/
def host : Command.Host where
  complaint _ := "not a document"
  takes _ := true

end Timetable.Main

def main (arguments : List String) : IO UInt32 := do
  match Timetable.Command.ofArguments? false arguments with
  | none =>
      IO.eprintln "Usage: timetable [-v] parse|check|filter|schedules [OPTIONS] [ARGUMENTS]"
      return 2
  | some (_, command) =>
      let folder ← Timetable.Main.currentFolder command.paths
      let host := Timetable.Main.host
      let outcome := Timetable.Command.run host folder (← Timetable.Main.currentInstant) command
      match outcome with
      | .ok report => report.lines.forM IO.println
      | .error trouble => do
          trouble.linesBefore.forM IO.println
          IO.eprintln (trouble.message host)
      return (Timetable.Command.exitNumber outcome).toUInt32
