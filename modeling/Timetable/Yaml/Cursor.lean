import Timetable.Yaml.Error

/-!
A place in the text of a document: the characters to come, and the line and column. The end of the
text is seen as the character 0, which no document holds.
-/
namespace Timetable.Yaml

def endChar : Char := Char.ofNat 0

def isBreak (c : Char) : Bool :=
  c == '\n' || c == '\r' || c.toNat == 0x85 || c.toNat == 0x2028 || c.toNat == 0x2029

def isLineEnd (c : Char) : Bool := c == endChar || isBreak c

def isSpaceOrEnd (c : Char) : Bool := c == ' ' || isLineEnd c

def isGap (c : Char) : Bool := c == '\t' || isSpaceOrEnd c

def isDocumentChar (c : Char) : Bool :=
  let n := c.toNat
  n == 0x09 || n == 0x0a || n == 0x0d || (Nat.ble 0x20 n && Nat.ble n 0x7e) || n == 0x85 ||
    (Nat.ble 0xa0 n && Nat.ble n 0xd7ff) || (Nat.ble 0xe000 n && Nat.ble n 0xfffd) ||
    Nat.ble 0x10000 n

/-- A place in the text. -/
structure Cursor where
  rest : List Char
  index : Nat
  line : Nat
  column : Nat
  deriving DecidableEq, Repr

namespace Cursor

def start (cs : List Char) : Cursor := ⟨cs, 0, 0, 0⟩

def peek (c : Cursor) : Char := c.rest.headD endChar

/-- The character that comes after `k` others. -/
def peekAt (c : Cursor) (k : Nat) : Char := c.rest.getD k endChar

/-- The place after the next character. A line ends after its break, and a carriage return before a
line feed belongs to the same break. A byte order mark takes no column. -/
def next (c : Cursor) : Cursor :=
  match c.rest with
  | [] => c
  | x :: rest =>
      if isBreak x && !(x == '\r' && rest.head? == some '\n') then
        ⟨rest, c.index + 1, c.line + 1, 0⟩
      else if x.toNat == 0xfeff then ⟨rest, c.index + 1, c.line, c.column⟩
      else ⟨rest, c.index + 1, c.line, c.column + 1⟩

/-- The place after `n` characters. -/
def skip (c : Cursor) : Nat → Cursor
  | 0 => c
  | n + 1 => c.next.skip n

/-- The characters up to the first that is not of a kind, and the place after them. -/
def takeWhile (p : Char → Bool) (c : Cursor) : List Char × Cursor :=
  let taken := c.rest.takeWhile p
  (taken, c.skip taken.length)

/-- The place before the first character that is not of a kind. -/
def skipWhile (p : Char → Bool) (c : Cursor) : Cursor := (c.takeWhile p).2

def skipSpaces (c : Cursor) : Cursor := c.skipWhile (· == ' ')

/-- The place at the end of the line if a comment starts here. -/
def skipComment (c : Cursor) : Cursor :=
  if c.peek == '#' then c.skipWhile fun x => !isLineEnd x else c

/-- A line break as it counts in a text, and the place after it. Most breaks count as a line feed;
the break between lines and the break between paragraphs of Unicode stand for themselves. -/
def takeBreak (c : Cursor) : List Char × Cursor :=
  let x := c.peek
  if x == '\r' && c.peekAt 1 == '\n' then (['\n'], c.skip 2)
  else if x == '\r' || x == '\n' || x.toNat == 0x85 then (['\n'], c.next)
  else if isBreak x then ([x], c.next)
  else ([], c)

/-- A marker of three characters between documents stands here. -/
def atMarker (c : Cursor) : Bool :=
  let three := c.rest.take 3
  (three == ['-', '-', '-'] || three == ['.', '.', '.']) && isGap (c.peekAt 3)

/-- The rest of a line may hold a comment and nothing else; the place is after its break. -/
def endLine (c : Cursor) : Except Error Cursor :=
  let c := c.skipSpaces.skipComment
  if isLineEnd c.peek then .ok c.takeBreak.2 else .error .invalid

end Cursor

end Timetable.Yaml
