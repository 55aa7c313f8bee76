import Timetable.Config
import Timetable.Folder
import Timetable.Notice
import Timetable.Yaml

/-!
Configurations in files. A file holds one document, a mapping of fields; a document without content
counts as a mapping without fields. Main definition: `Config.ofEntry`, for what stands at a path.
-/
namespace Timetable

namespace Config

/-- Why what stands at a path gives no configuration. -/
inductive LoadError where
  | missing
  | folder
  | document (e : Yaml.Error)
  | notMapping
  | data (e : DataError)

/-- The message about what stands at a path. What is said of a text that is no document, `complaint`, is
up to the reader of documents. -/
def LoadError.message (path complaint : String) : LoadError → String
  | missing =>
      "Config file not found: " ++ path ++
        "\nPlease create a config.yaml file. See config.example.yaml for reference."
  | folder => "[Errno 21] Is a directory: " ++ Text.quote path
  | document .invalid => Yaml.Error.message .invalid ++ " in " ++ path ++ ": " ++ complaint
  | document e => e.message
  | notMapping => "Config file must contain a mapping at the root level."
  | data e => e.message

/-- The lines of a text end in line feeds, whichever way they ended before. -/
def withLineFeeds : List Char → List Char
  | '\r' :: '\n' :: cs => '\n' :: withLineFeeds cs
  | '\r' :: cs => '\n' :: withLineFeeds cs
  | c :: cs => c :: withLineFeeds cs
  | [] => []

def ofText (text : String) : Except LoadError Config :=
  match Yaml.read (withLineFeeds text.toList) with
  | .error e => .error (.document e)
  | .ok v =>
      if v.isFalsy then (ofEntries []).mapError .data
      else match v with
        | .map entries => (ofEntries entries).mapError .data
        | _ => .error .notMapping

def ofEntry : FileEntry → Except LoadError Config
  | .missing => .error .missing
  | .folder => .error .folder
  | .file text => ofText text

/-- What is reported of a configuration that was read from a path. -/
def loadNotice (c : Config) (path : String) : Notice :=
  .loaded c.schedules.length path

end Config

end Timetable
