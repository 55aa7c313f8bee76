import Timetable.Yaml.ScalarText

/-!
Properties and directives: the tags and anchors of values, and the lines before a document that
declare its version and abbreviations of tags.
-/
namespace Timetable.Yaml

/-- A tag as it is written: an abbreviation, if there is one, and the rest. -/
structure TagText where
  handle : Option (List Char)
  tail : List Char
  deriving DecidableEq, Repr

/-- A line before a document. -/
inductive Directive where
  | version (major : Nat)
  | handle (handle stem : List Char)
  | other
  deriving DecidableEq, Repr

/-- Letters and digits of the ASCII range, the dash and the underscore. -/
def isNameChar (c : Char) : Bool := c.isAlphanum || c == '-' || c == '_'

def isAddressChar (c : Char) : Bool :=
  c.isAlphanum || "-;/?:@&=+$,_.!~*'()[]%".toList.contains c

namespace Cursor

def takeAnchor (c : Cursor) : Except Error (List Char × Cursor) :=
  let (name, c) := c.next.takeWhile isNameChar
  if name.isEmpty then .error .invalid
  else if isGap c.peek || "?:,]\x7d%@\x60".toList.contains c.peek then .ok (name, c)
  else .error .invalid

def addressBytes : Nat → Cursor → Except Error (List UInt8 × Cursor)
  | 0, c => .ok ([], c)
  | fuel + 1, c =>
      if c.peek == '%' then
        match hexValue? (c.peekAt 1), hexValue? (c.peekAt 2) with
        | some a, some b =>
            match addressBytes fuel (c.skip 3) with
            | .error e => .error e
            | .ok (bs, c) => .ok (UInt8.ofNat (16 * a + b) :: bs, c)
        | _, _ => .error .invalid
      else .ok ([], c)

def addressChars : Nat → Cursor → Except Error (List Char × Cursor)
  | 0, c => .ok ([], c)
  | fuel + 1, c =>
      if c.peek == '%' then
        match addressBytes (c.rest.length + 1) c with
        | .error e => .error e
        | .ok (bs, c) => match String.fromUTF8? ⟨bs.toArray⟩ with
            | none => .error .invalid
            | some s => match addressChars fuel c with
                | .error e => .error e
                | .ok (cs, c) => .ok (s.toList ++ cs, c)
      else if isAddressChar c.peek then
        match addressChars fuel c.next with
        | .error e => .error e
        | .ok (cs, c') => .ok (c.peek :: cs, c')
      else .ok ([], c)

def takeAddress (c : Cursor) : Except Error (List Char × Cursor) :=
  if isAddressChar c.peek then addressChars (c.rest.length + 1) c else .error .invalid

/-- An abbreviation of tags: a sign, or a name between two signs. -/
def takeHandle (c : Cursor) : Except Error (List Char × Cursor) :=
  if c.peek != '!' then .error .invalid
  else if c.peekAt 1 == ' ' then .ok (['!'], c.next)
  else
    let (name, c) := c.next.takeWhile isNameChar
    if c.peek == '!' then .ok ('!' :: name ++ ['!'], c.next) else .error .invalid

def usesHandle (c : Cursor) : Bool :=
  (c.rest.drop 1).takeWhile (fun x => !isSpaceOrEnd x) |>.contains '!'

def tagText (c : Cursor) : Except Error (TagText × Cursor) :=
  let x := c.peekAt 1
  if x == '<' then
    match (c.skip 2).takeAddress with
    | .error e => .error e
    | .ok (cs, c) => if c.peek == '>' then .ok (⟨none, cs⟩, c.next) else .error .invalid
  else if isGap x then .ok (⟨none, ['!']⟩, c.next)
  else if c.usesHandle then
    match c.takeHandle with
    | .error e => .error e
    | .ok (handle, c) => match c.takeAddress with
        | .error e => .error e
        | .ok (cs, c) => .ok (⟨some handle, cs⟩, c)
  else match c.next.takeAddress with
    | .error e => .error e
    | .ok (cs, c) => .ok (⟨some ['!'], cs⟩, c)

/-- A tag; a space or the end of the line has to follow. -/
def takeTag (c : Cursor) : Except Error (TagText × Cursor) :=
  match c.tagText with
  | .error e => .error e
  | .ok (t, c) => if isSpaceOrEnd c.peek then .ok (t, c) else .error .invalid

def takeNumber (c : Cursor) : Except Error (Nat × Cursor) :=
  let (ds, c) := c.takeWhile Char.isDigit
  if ds.isEmpty then .error .invalid
  else .ok (Text.Numeral.ofDigits (ds.map fun d => d.toNat - 48), c)

def takeVersion (c : Cursor) : Except Error (Directive × Cursor) := do
  let (major, c) ← c.skipSpaces.takeNumber
  if c.peek == '.' then
    let (_, c) ← c.next.takeNumber
    if isSpaceOrEnd c.peek then return (.version major, c) else .error .invalid
  else .error .invalid

def takeHandleLine (c : Cursor) : Except Error (Directive × Cursor) := do
  let (handle, c) ← c.skipSpaces.takeHandle
  if c.peek == ' ' then
    let (stem, c) ← c.skipSpaces.takeAddress
    if isSpaceOrEnd c.peek then return (.handle handle stem, c) else .error .invalid
  else .error .invalid

def takeDirective (c : Cursor) : Except Error (Directive × Cursor) := do
  let (name, c) := c.next.takeWhile isNameChar
  if name.isEmpty || !isSpaceOrEnd c.peek then .error .invalid
  else
    let (d, c) ←
      if name == "YAML".toList then c.takeVersion
      else if name == "TAG".toList then c.takeHandleLine
      else pure (.other, c.skipWhile fun x => !isLineEnd x)
    return (d, ← c.endLine)

end Cursor

end Timetable.Yaml
