import Timetable.Markup.Color
import Timetable.Text.Case

/-!
Styles of marked up text. A style is written as a row of words, and two rows that say the same have the
same normal form. Main definition: `Style.normalName`.
-/
namespace Timetable.Markup

/-- The ways in which text stands out, in the order of the normal form. -/
inductive Emphasis where
  | bold | dim | italic | underline | blink | blink2 | reverse | conceal | strike
  | underline2 | frame | encircle | overline
  deriving DecidableEq, Repr

namespace Emphasis

def all : List Emphasis :=
  [bold, dim, italic, underline, blink, blink2, reverse, conceal, strike, underline2, frame, encircle,
    overline]

def name : Emphasis → String
  | bold => "bold"
  | dim => "dim"
  | italic => "italic"
  | underline => "underline"
  | blink => "blink"
  | blink2 => "blink2"
  | reverse => "reverse"
  | conceal => "conceal"
  | strike => "strike"
  | underline2 => "underline2"
  | frame => "frame"
  | encircle => "encircle"
  | overline => "overline"

def ofWord? (word : String) : Option Emphasis :=
  match word with
  | "b" => some bold
  | "d" => some dim
  | "i" => some italic
  | "u" => some underline
  | "r" => some reverse
  | "c" => some conceal
  | "s" => some strike
  | "uu" => some underline2
  | "o" => some overline
  | _ => all.find? fun e => e.name == word

end Emphasis

/-- A style: the ways that are turned on or off, the latest first, colors and a link. -/
structure Style where
  emphases : List (Emphasis × Bool)
  color : Option (List Char)
  ground : Option (List Char)
  link : Option (List Char)
  deriving DecidableEq, Repr

namespace Style

def plain : Style := ⟨[], none, none, none⟩

/-- Why a row of words is no style. -/
inductive Error where
  | unknown
  /-- A share of a color that should be a number is missing. -/
  | broken
  deriving DecidableEq, Repr

def colorOf (word : List Char) : Except Error (List Char) :=
  let lowered := Text.lowerFrom [] word
  match readColor lowered with
  | .color => .ok lowered
  | .none => .error .unknown
  | .broken => .error .broken

/-- What is expected of the next word. -/
inductive Awaited where
  | any | ground | negation | link
  deriving DecidableEq, Repr

def addWords (s : Style) (awaited : Awaited) : List (List Char) → Except Error Style
  | [] => if awaited = .any then .ok s else .error .unknown
  | word :: rest =>
      match awaited with
      | .ground => match colorOf word with
          | .error e => .error e
          | .ok c => { s with ground := some c }.addWords .any rest
      | .negation => match Emphasis.ofWord? (String.ofList word) with
          | none => .error .unknown
          | some e => { s with emphases := (e, false) :: s.emphases }.addWords .any rest
      | .link => { s with link := some word }.addWords .any rest
      | .any =>
          let lowered := String.ofList (Text.lowerFrom [] word)
          if lowered == "on" then s.addWords .ground rest
          else if lowered == "not" then s.addWords .negation rest
          else if lowered == "link" then s.addWords .link rest
          else match Emphasis.ofWord? lowered with
            | some e => { s with emphases := (e, true) :: s.emphases }.addWords .any rest
            | none => match colorOf word with
                | .error e => .error e
                | .ok c => { s with color := some c }.addWords .any rest

def emphasisWords (s : Style) (e : Emphasis) : List (List Char) :=
  match s.emphases.find? fun p => p.1 == e with
  | some (_, true) => [e.name.toList]
  | some (_, false) => ["not".toList, e.name.toList]
  | none => []

def words (s : Style) : List (List Char) :=
  Emphasis.all.flatMap s.emphasisWords ++ s.color.toList ++
    (match s.ground with
      | some c => ["on".toList, c]
      | none => []) ++
    (match s.link with
      | some l => ["link".toList, l]
      | none => [])

def text (s : Style) : List Char :=
  match s.words with
  | [] => "none".toList
  | words => Text.joinWith [' '] words

/-- The normal form of a row of words. A row that is no style stands for itself, letter case and
blanks around it aside. There is none if a share of a color is missing. -/
def normalName (name : List Char) : Option (List Char) :=
  if Text.trim name == "none".toList then some (text plain)
  else match plain.addWords .any (Text.words name) with
    | .ok s => some s.text
    | .error .unknown => some (Text.lowerFrom [] (Text.trim name))
    | .error .broken => none

end Style

end Timetable.Markup
