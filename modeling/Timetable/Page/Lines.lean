import Timetable.Text.Blank
import Timetable.Text.Split
import Timetable.Text.Width

/-!
Lines of a page of a given width. A text is broken between words; a word that is wider than the page is
broken anywhere, or it is cut and ends in an ellipsis. Main definition: `Page.wrap`.
-/
namespace Timetable.Page

/-- What becomes of a word that is wider than the page. -/
inductive Overflow where
  | fold
  | ellipsis
  deriving DecidableEq, Repr

/-- Tabs replaced by blanks up to the next column that is a multiple of eight; the text starts in
`column`. -/
def expandTabs (column : Nat) : List Char → List Char
  | [] => []
  | c :: cs =>
      if c = '\t' then
        let n := 8 - column % 8
        List.replicate n ' ' ++ expandTabs (column + n) cs
      else c :: expandTabs (column + Text.cells c) cs

/-- The words of a text, each with the blanks behind it, the first also with the blanks before it. `word`
holds the characters of the word so far, the last first; `ink` tells that one of them is no blank, and
`ended` that the last one is a blank after these. -/
def wordsFrom (word : List Char) (ink ended : Bool) : List Char → List (List Char)
  | [] => if ink then [word.reverse] else []
  | c :: cs =>
      if Text.isBlank c then wordsFrom (c :: word) ink ink cs
      else if ended then word.reverse :: wordsFrom [c] true false cs
      else wordsFrom (c :: word) true false cs

def words (cs : List Char) : List (List Char) := wordsFrom [] false false cs

/-- A word cut into parts of at most `width` cells. `part` holds the part so far, the last character
first, which takes `used` cells. -/
def foldFrom (width : Nat) (part : List Char) (used : Nat) : List Char → List (List Char)
  | [] => [part.reverse]
  | c :: cs =>
      if width < used + Text.cells c then part.reverse :: foldFrom width [c] (Text.cells c) cs
      else foldFrom width (c :: part) (used + Text.cells c) cs

/-- The places where parts start, if the first one starts at `start`. -/
def partStarts (start : Nat) : List (List Char) → List Nat
  | [] => []
  | part :: parts => start :: partStarts (start + part.length) parts

/-- The places at which words are broken into lines. The words start at `start`, and `used` cells of
the line are taken. -/
def breakPlaces (o : Overflow) (width start used : Nat) : List (List Char) → List Nat
  | [] => []
  | word :: words =>
      let next := start + word.length
      let ink := Text.width (Text.trimEnd word)
      if used + ink ≤ width then breakPlaces o width next (used + Text.width word) words
      else if width < ink then
        let parts := match o with
          | .fold => foldFrom width [] 0 word
          | .ellipsis => [word]
        (partStarts start parts).filter (· ≠ 0) ++
          breakPlaces o width next (Text.width (parts.getLast?.getD [])) words
      else if used ≠ 0 ∧ start ≠ 0 then start :: breakPlaces o width next (Text.width word) words
      else breakPlaces o width next used words

/-- A text cut at places, which are counted from the place where the text starts. -/
def cutAt (start : Nat) (cs : List Char) : List Nat → List (List Char)
  | [] => [cs]
  | place :: places => cs.take (place - start) :: cutAt place (cs.drop (place - start)) places

/-- Blanks at the end that stand beyond the width are dropped. -/
def trimBeyond (width : Nat) (cs : List Char) : List Char :=
  let blanks := (cs.reverse.takeWhile Text.isBlank).length
  cs.take (cs.length - min blanks (cs.length - width))

/-- The front of a text that fits into a width. A wide character that fits with one half only becomes a
blank. -/
def crop (width : Nat) : List Char → List Char
  | [] => []
  | c :: cs =>
      if Text.cells c ≤ width then c :: crop (width - Text.cells c) cs
      else if width = 0 then [] else [' ']

def fit (o : Overflow) (width : Nat) (cs : List Char) : List Char :=
  if Text.width cs ≤ width then cs
  else match o with
    | .fold => crop width cs
    | .ellipsis => crop (width - 1) cs ++ ['…']

def wrap (o : Overflow) (width : Nat) (cs : List Char) : List (List Char) :=
  (Text.splitAt '\n' cs).flatMap fun line =>
    let line := expandTabs 0 line
    (cutAt 0 line (breakPlaces o width 0 0 (words line))).map fun l => fit o width (trimBeyond width l)

/-- A text with blanks behind it up to a width. -/
def padRight (width : Nat) (cs : List Char) : List Char :=
  cs ++ List.replicate (width - Text.width cs) ' '

def center (width : Nat) (cs : List Char) : List Char :=
  let cs := crop width (Text.trimEnd cs)
  padRight width (List.replicate ((width - Text.width cs) / 2) ' ' ++ cs)

end Timetable.Page
