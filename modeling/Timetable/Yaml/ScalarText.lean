import Timetable.Text.Numeral
import Timetable.Yaml.Cursor

/-!
The forms in which a document writes a text: plain, between single or double quotes, or as a block of
lines. Each function takes the text at a place and gives the place after it.
-/
namespace Timetable.Yaml

def hexValue? (c : Char) : Option Nat :=
  if c.isDigit then some (c.toNat - 48)
  else if 'a' ≤ c ∧ c ≤ 'f' then some (c.toNat - 87)
  else if 'A' ≤ c ∧ c ≤ 'F' then some (c.toNat - 55)
  else none

def hexNumber? (cs : List Char) : Option Nat :=
  cs.foldl (fun n c => match n, hexValue? c with
    | some n, some d => some (16 * n + d)
    | _, _ => none) (some 0)

namespace Cursor

/-! ### Between quotes -/

/-- The character that a letter after a backslash stands for. -/
def escaped? (c : Char) : Option Char :=
  match c with
  | '0' => some (Char.ofNat 0)
  | 'a' => some (Char.ofNat 0x07)
  | 'b' => some (Char.ofNat 0x08)
  | 't' => some '\t'
  | '\t' => some '\t'
  | 'n' => some '\n'
  | 'v' => some (Char.ofNat 0x0b)
  | 'f' => some (Char.ofNat 0x0c)
  | 'r' => some '\r'
  | 'e' => some (Char.ofNat 0x1b)
  | ' ' => some ' '
  | '"' => some '"'
  | '\\' => some '\\'
  | '/' => some '/'
  | 'N' => some (Char.ofNat 0x85)
  | '_' => some (Char.ofNat 0xa0)
  | 'L' => some (Char.ofNat 0x2028)
  | 'P' => some (Char.ofNat 0x2029)
  | _ => none

/-- The count of hexadecimal digits after a letter after a backslash. -/
def escapeLength? (c : Char) : Option Nat :=
  match c with
  | 'x' => some 2
  | 'u' => some 4
  | 'U' => some 8
  | _ => none

/-- The character with a code. A code that is reserved for pairs gives the replacement character. -/
def charOfCode (n : Nat) : Except Error Char :=
  if 0x7fffffff < n then .error .wideEscape
  else if 0x10ffff < n then .error .escape
  else if 0xd800 ≤ n ∧ n ≤ 0xdfff then .ok (Char.ofNat 0xfffd)
  else .ok (Char.ofNat n)

/-- Line breaks and the spaces around them, inside quotes. A marker between documents must not
stand at the start of a line. -/
def quotedBreaks : Nat → Cursor → Except Error (List Char × Cursor)
  | 0, _ => .error .invalid
  | fuel + 1, c =>
      if c.atMarker then .error .invalid
      else
        let c := c.skipWhile fun x => x == ' ' || x == '\t'
        if isBreak c.peek then
          let (b, c) := c.takeBreak
          match quotedBreaks fuel c with
          | .error e => .error e
          | .ok (bs, c) => .ok (b ++ bs, c)
        else .ok ([], c)

/-- Spaces inside quotes. At the end of a line they are dropped, and a single line feed counts as a
space. -/
def quotedSpaces (c : Cursor) : Except Error (List Char × Cursor) :=
  let (spaces, c) := c.takeWhile fun x => x == ' ' || x == '\t'
  if c.peek == endChar then .error .invalid
  else if isBreak c.peek then
    let (b, c) := c.takeBreak
    match quotedBreaks (c.rest.length + 1) c with
    | .error e => .error e
    | .ok (bs, c) =>
        .ok ((if b ≠ ['\n'] then b else if bs.isEmpty then [' '] else []) ++ bs, c)
  else .ok (spaces, c)

def escapeSequence (c : Cursor) : Except Error (List Char × Cursor) :=
  match escaped? c.peek, escapeLength? c.peek with
  | some x, _ => .ok ([x], c.next)
  | none, some n =>
      let c := c.next
      let digits := c.rest.take n
      if digits.length < n then .error .invalid
      else match hexNumber? digits with
        | none => .error .invalid
        | some code => match charOfCode code with
            | .error e => .error e
            | .ok x => .ok ([x], c.skip n)
  | none, none =>
      if isBreak c.peek then
        let c := c.takeBreak.2
        quotedBreaks (c.rest.length + 1) c
      else .error .invalid

def quotedWord (double : Bool) : Nat → Cursor → Except Error (List Char × Cursor)
  | 0, _ => .error .invalid
  | fuel + 1, c =>
      let (plain, c) := c.takeWhile fun x => !(x == '\'' || x == '"' || x == '\\' || isGap x)
      let x := c.peek
      let more (front : List Char) (c : Cursor) : Except Error (List Char × Cursor) :=
        match quotedWord double fuel c with
        | .error e => .error e
        | .ok (cs, c) => .ok (plain ++ front ++ cs, c)
      if !double && x == '\'' && c.peekAt 1 == '\'' then more ['\''] (c.skip 2)
      else if (double && x == '\'') || (!double && (x == '"' || x == '\\')) then more [x] c.next
      else if double && x == '\\' then
        match escapeSequence c.next with
        | .error e => .error e
        | .ok (cs, c) => more cs c
      else .ok (plain, c)

/-- Words and spaces up to the closing quote. -/
def quotedParts (mark : Char) : Nat → Cursor → Except Error (List Char × Cursor)
  | 0, _ => .error .invalid
  | fuel + 1, c =>
      if c.peek == mark then .ok ([], c.next)
      else match c.quotedSpaces with
        | .error e => .error e
        | .ok (spaces, c) => match quotedWord (mark == '"') (c.rest.length + 1) c with
            | .error e => .error e
            | .ok (word, c) => match quotedParts mark fuel c with
                | .error e => .error e
                | .ok (cs, c) => .ok (spaces ++ word ++ cs, c)

def takeQuoted (c : Cursor) : Except Error (List Char × Cursor) :=
  let mark := c.peek
  let c := c.next
  match quotedWord (mark == '"') (c.rest.length + 1) c with
  | .error e => .error e
  | .ok (word, c) => match quotedParts mark (c.rest.length + 1) c with
      | .error e => .error e
      | .ok (cs, c) => .ok (word ++ cs, c)

/-! ### Blocks of lines -/

/-- How a block treats the breaks after its last line. -/
inductive Chomping where
  | strip | clip | keep
  deriving DecidableEq, Repr

def chomping? (c : Char) : Option Chomping :=
  match c with
  | '+' => some .keep
  | '-' => some .strip
  | _ => none

/-- A digit that tells the indentation of a block; zero is not allowed. -/
def takeIndicator (c : Cursor) : Except Error (Option Nat × Cursor) :=
  if c.peek.isDigit then
    if c.peek == '0' then .error .invalid else .ok (some (c.peek.toNat - 48), c.next)
  else .ok (none, c)

/-- The signs after the mark of a block, in either order. -/
def blockHeader (c : Cursor) : Except Error (Chomping × Option Nat × Cursor) := do
  let (chomp, width, c) ← match chomping? c.peek with
    | some chomp => do
        let (width, c) ← c.next.takeIndicator
        pure (chomp, width, c)
    | none => do
        let (width, c) ← c.takeIndicator
        match width, chomping? c.peek with
        | some n, some chomp => pure (chomp, some n, c.next)
        | width, _ => pure (Chomping.clip, width, c)
  if isSpaceOrEnd c.peek then return (chomp, width, ← c.endLine) else .error .invalid

/-- The empty lines before the first line of a block, and the widest indentation among them and
it. -/
def blockStart : Nat → Nat → Cursor → List Char × Nat × Cursor
  | 0, widest, c => ([], widest, c)
  | fuel + 1, widest, c =>
      if c.peek == ' ' then
        let c := c.next
        blockStart fuel (max widest c.column) c
      else if isBreak c.peek then
        let (b, c) := c.takeBreak
        let (bs, widest, c) := blockStart fuel widest c
        (b ++ bs, widest, c)
      else ([], widest, c)

/-- The place after spaces up to a column. -/
def skipIndent (indent : Nat) : Nat → Cursor → Cursor
  | 0, c => c
  | fuel + 1, c =>
      if c.column < indent && c.peek == ' ' then skipIndent indent fuel c.next else c

def blockBreaks (indent : Nat) : Nat → Cursor → List Char × Cursor
  | 0, c => ([], c)
  | fuel + 1, c =>
      let c := skipIndent indent indent c
      if isBreak c.peek then
        let (b, c) := c.takeBreak
        let (bs, c) := blockBreaks indent fuel c
        (b ++ bs, c)
      else ([], c)

/-- The lines of a block: the text, the break after the last line, the breaks after that, and the
place. In a folded block a single line feed between two lines that do not start with a space counts
as a space. -/
def blockLines (folded : Bool) (indent : Nat) : Nat → List Char → Cursor →
    List Char × List Char × List Char × Cursor
  | 0, breaks, c => ([], [], breaks, c)
  | fuel + 1, breaks, c =>
      if c.column == indent && c.peek != endChar then
        let startsFlush := !(c.peek == ' ' || c.peek == '\t')
        let (line, c) := c.takeWhile fun x => !isLineEnd x
        let (b, c) := c.takeBreak
        let (bs, c) := blockBreaks indent (c.rest.length + 1) c
        if c.column == indent && c.peek != endChar then
          let join :=
            if folded && b == ['\n'] && startsFlush && !(c.peek == ' ' || c.peek == '\t') then
              if bs.isEmpty then [' '] else []
            else b
          let (cs, last, tail, c) := blockLines folded indent fuel bs c
          (breaks ++ line ++ join ++ cs, last, tail, c)
        else (breaks ++ line, b, bs, c)
      else ([], [], breaks, c)

/-- A text written as a block of lines; `indent` is the indentation around it. -/
def takeBlock (indent : Int) (c : Cursor) : Except Error (List Char × Cursor) := do
  let folded := c.peek == '>'
  let (chomp, width, c) ← c.next.blockHeader
  let least : Nat := max 1 (indent + 1).toNat
  let (breaks, column, c) := match width with
    | none =>
        let (breaks, widest, c) := blockStart (c.rest.length + 1) 0 c
        (breaks, max least widest, c)
    | some n =>
        let column := least + n - 1
        let (breaks, c) := blockBreaks column (c.rest.length + 1) c
        (breaks, column, c)
  let (text, last, tail, c) := blockLines folded column (c.rest.length + 1) breaks c
  let ending := match chomp with
    | .strip => []
    | .clip => last
    | .keep => last ++ tail
  return (text ++ ending, c)

/-! ### Plain texts -/

/-- The characters of a plain text up to a space, a comment or a sign of structure. -/
def plainLength (flow : Bool) : List Char → Nat
  | [] => 0
  | x :: rest =>
      let after := rest.headD endChar
      let stops := isGap x ||
        (x == ':' && (isGap after || (flow && [',', '[', ']', '{', '}'].contains after))) ||
        (flow && [',', '?', '[', ']', '{', '}'].contains x)
      if stops then 0 else plainLength flow rest + 1

/-- Empty lines inside a plain text; nothing is left if a marker between documents comes. -/
def plainBreaks : Nat → Cursor → Option (List Char) × Cursor
  | 0, c => (some [], c)
  | fuel + 1, c =>
      if c.peek == ' ' then plainBreaks fuel c.next
      else if isBreak c.peek then
        let (b, c) := c.takeBreak
        if c.atMarker then (none, c)
        else match plainBreaks fuel c with
          | (some bs, c) => (some (b ++ bs), c)
          | (none, c) => (none, c)
      else (some [], c)

/-- Spaces inside a plain text: what they count as, whether a line ended, and the place. -/
def plainSpaces (c : Cursor) : List Char × Bool × Cursor :=
  let (spaces, c) := c.takeWhile (· == ' ')
  if isBreak c.peek then
    let (b, c) := c.takeBreak
    if c.atMarker then ([], true, c)
    else match plainBreaks (c.rest.length + 1) c with
      | (none, c) => ([], true, c)
      | (some bs, c) =>
          ((if b ≠ ['\n'] then b else if bs.isEmpty then [' '] else []) ++ bs, true, c)
  else (spaces, false, c)

/-- Words of a plain text. The flag tells whether the last thing passed is the end of a line. -/
def plainParts (flow : Bool) (indent : Int) : Nat → List Char → Bool → Cursor →
    List Char × Bool × Cursor
  | 0, _, ended, c => ([], ended, c)
  | fuel + 1, spaces, ended, c =>
      let length := if c.peek == '#' then 0 else plainLength flow c.rest
      if length = 0 then ([], ended, c)
      else
        let word := c.rest.take length
        let (gap, ended, c) := (c.skip length).plainSpaces
        if gap.isEmpty || c.peek == '#' || (!flow && (c.column : Int) < indent) then
          (spaces ++ word, ended, c)
        else
          let (cs, ended, c) := plainParts flow indent fuel gap ended c
          (spaces ++ word ++ cs, ended, c)

/-- A plain text; `indent` is the indentation around it. The flag tells whether the place after it is
at the start of a line. -/
def takePlain (flow : Bool) (indent : Int) (c : Cursor) : List Char × Bool × Cursor :=
  plainParts flow (indent + 1) (c.rest.length + 1) [] false c

end Cursor

end Timetable.Yaml
