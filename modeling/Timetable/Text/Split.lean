/-!
Cutting a text at every occurrence of one character, and putting pieces together with a separator
between them.
-/
namespace Timetable.Text

/-- The pieces between the occurrences of `sep`; there is one piece more than occurrences. -/
def splitAt (sep : Char) : List Char → List (List Char)
  | [] => [[]]
  | c :: cs =>
      if c = sep then [] :: splitAt sep cs
      else match splitAt sep cs with
        | [] => [[c]]
        | piece :: pieces => (c :: piece) :: pieces

/-- Pieces with a separator between each two of them. -/
def joinWith (sep : List Char) : List (List Char) → List Char
  | [] => []
  | [piece] => piece
  | piece :: next :: pieces => piece ++ sep ++ joinWith sep (next :: pieces)

/-- Strings with a separator between each two of them. -/
def join (sep : String) (pieces : List String) : String :=
  String.ofList (joinWith sep.toList (pieces.map String.toList))

end Timetable.Text
