import Timetable.Yaml.Content

/-!
Documents: texts that stand for one value. A text is cut into tokens, the tokens make up a tree of
nodes, and the tree stands for a value. Main definition: `Yaml.read`.
-/
namespace Timetable.Yaml

/-- The value of a document; a text without a document stands for nothing. -/
def read (cs : List Char) : Except Error Value :=
  match Node.ofTokens (tokens cs) with
  | .error e => .error e
  | .ok none => .ok .null
  | .ok (some n) => n.content.mapError Fault.error

end Timetable.Yaml
