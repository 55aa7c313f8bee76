import Timetable.Yaml.Property

/-!
Tokens of a document: its texts and signs, with the starts and ends of indented blocks made explicit.
A key without a sign of its own is known as a key only when the colon after it is met, so each state
keeps the places where such keys may have started.
-/
namespace Timetable.Yaml

/-- A token. -/
inductive Token where
  | directive (d : Directive)
  | documentStart
  | documentEnd
  | blockSequence
  | blockMapping
  | blockEnd
  | flowSequence
  | flowSequenceEnd
  | flowMapping
  | flowMappingEnd
  | entry
  | flowEntry
  | key
  | value
  | alias (name : List Char)
  | anchor (name : List Char)
  | tag (t : TagText)
  | scalar (text : List Char) (plain : Bool)
  | finish
  | failure (e : Error)
  deriving DecidableEq, Repr

/-- A place where a key without a sign may have started. -/
structure KeyPlace where
  /-- The flow collections around the place. -/
  depth : Nat
  /-- The tokens before the place. -/
  tokens : Nat
  /-- A key has to follow, because the block around it has only keys here. -/
  required : Bool
  index : Nat
  line : Nat
  column : Nat
  deriving DecidableEq, Repr

/-- The state between two tokens. -/
structure Layout where
  cursor : Cursor
  /-- The tokens so far, the last first. -/
  tokens : List Token
  /-- The flow collections around the place. -/
  depth : Nat
  /-- The indentation of the block around the place; -1 outside blocks. -/
  indent : Int
  /-- The indentations of the blocks around that one. -/
  outer : List Int
  /-- A key without a sign may start here. -/
  keyAllowed : Bool
  keys : List KeyPlace
  finished : Bool
  deriving DecidableEq, Repr

namespace Layout

def start (cs : List Char) : Layout :=
  ⟨.start cs, [], 0, -1, [], true, [], false⟩

def push (s : Layout) (t : Token) : Layout := { s with tokens := t :: s.tokens }

/-- A token put in after the first `n` tokens. -/
def insert (s : Layout) (n : Nat) (t : Token) : Layout :=
  let later := s.tokens.length - n
  { s with tokens := s.tokens.take later ++ t :: s.tokens.drop later }

/-- The next characters are passed over. -/
def skip (s : Layout) (n : Nat) : Layout := { s with cursor := s.cursor.skip n }

def inFlow (s : Layout) : Bool := s.depth != 0

def closeBlocks (column : Int) (s : Layout) : Nat → Layout
  | 0 => s
  | fuel + 1 =>
      if s.inFlow || s.indent ≤ column then s
      else match s.outer with
        | [] => { s.push .blockEnd with indent := -1 }
        | i :: outer => closeBlocks column { s.push .blockEnd with indent := i, outer := outer } fuel

def close (s : Layout) (column : Int) : Layout := s.closeBlocks column (s.outer.length + 1)

/-- A block starts at a column if that is deeper than the block around it. -/
def openBlock (s : Layout) (column : Nat) (t : Token) (place : Nat) : Layout :=
  if s.indent < column then
    { s.insert place t with indent := column, outer := s.indent :: s.outer }
  else s

/-- The place of a key in the current flow collection is given up. -/
def dropKey (s : Layout) : Except Error Layout :=
  match s.keys.find? fun k => k.depth == s.depth with
  | none => .ok s
  | some k =>
      if k.required then .error .invalid
      else .ok { s with keys := s.keys.filter fun k => k.depth != s.depth }

/-- Places of keys on earlier lines, or more than 1024 characters back, are given up. -/
def dropStaleKeys (s : Layout) : Except Error Layout :=
  let isStale (k : KeyPlace) : Bool :=
    k.line != s.cursor.line || decide (1024 < s.cursor.index - k.index)
  if s.keys.any fun k => isStale k && k.required then .error .invalid
  else .ok { s with keys := s.keys.filter fun k => !isStale k }

/-- A key without a sign may start at the next token. -/
def markKey (s : Layout) : Except Error Layout :=
  if s.keyAllowed then
    match s.dropKey with
    | .error e => .error e
    | .ok s =>
        let c := s.cursor
        let required := !s.inFlow && s.indent == c.column
        .ok { s with keys := ⟨s.depth, s.tokens.length, required, c.index, c.line, c.column⟩ :: s.keys }
  else .ok s

/-- Spaces, comments and line breaks before the next token are passed over. -/
def skipBlank : Nat → Layout → Layout
  | 0, s => s
  | fuel + 1, s =>
      let c := s.cursor.skipSpaces.skipComment
      if isBreak c.peek then
        skipBlank fuel
          { s with cursor := c.takeBreak.2, keyAllowed := s.keyAllowed || !s.inFlow }
      else { s with cursor := c }

def sign (s : Layout) (t : Token) : Layout := (s.push t).skip 1

/-- A marker between documents, or a directive: all blocks end. -/
def closeDocument (s : Layout) : Except Error Layout :=
  (s.close (-1)).dropKey.map fun s => { s with keyAllowed := false }

def openFlow (s : Layout) (t : Token) : Except Error Layout := do
  let s ← s.markKey
  return { s.sign t with depth := s.depth + 1, keyAllowed := true }

def closeFlow (s : Layout) (t : Token) : Except Error Layout := do
  let s ← s.dropKey
  if s.depth = 0 then .error .invalid
  else return { s.sign t with depth := s.depth - 1, keyAllowed := false }

def blockEntry (s : Layout) : Except Error Layout := do
  if !s.inFlow && !s.keyAllowed then .error .invalid
  else
    let s := if s.inFlow then s
      else s.openBlock s.cursor.column .blockSequence s.tokens.length
    let s ← { s with keyAllowed := true }.dropKey
    return s.sign .entry

def keySign (s : Layout) : Except Error Layout := do
  if !s.inFlow && !s.keyAllowed then .error .invalid
  else
    let s := if s.inFlow then s
      else s.openBlock s.cursor.column .blockMapping s.tokens.length
    let s ← { s with keyAllowed := !s.inFlow }.dropKey
    return s.sign .key

/-- The colon after a key. If a key without a sign may have started before, it has. -/
def valueSign (s : Layout) : Except Error Layout := do
  match s.keys.find? fun k => k.depth == s.depth with
  | some k =>
      let s := { s with keys := s.keys.filter fun k => k.depth != s.depth }
      let s := s.insert k.tokens .key
      let s := if s.inFlow then s else s.openBlock k.column .blockMapping k.tokens
      return { s with keyAllowed := false }.sign .value
  | none =>
      if !s.inFlow && !s.keyAllowed then .error .invalid
      else
        let s := if s.inFlow then s
          else s.openBlock s.cursor.column .blockMapping s.tokens.length
        let s ← { s with keyAllowed := !s.inFlow }.dropKey
        return s.sign .value

def keyToken (s : Layout) (t : Token) (c : Cursor) : Layout :=
  { s.push t with cursor := c, keyAllowed := false }

def atPlain (s : Layout) : Bool :=
  let x := s.cursor.peek
  let y := s.cursor.peekAt 1
  !(isGap x || "-?:,[]\x7b\x7d#&*!|>\x27\x22%@\x60".toList.contains x) ||
    (!isGap y && (x == '-' || (!s.inFlow && (x == '?' || x == ':'))))

/-- The next token, and the tokens that end or start blocks before it. -/
def step (s : Layout) : Except Error Layout := do
  let s := skipBlank (s.cursor.rest.length + 1) s
  let s ← s.dropStaleKeys
  let s := s.close s.cursor.column
  let c := s.cursor
  let x := c.peek
  let y := c.peekAt 1
  if x == endChar then
    let s ← s.closeDocument
    return { s.push .finish with keys := [], finished := true }
  else if x == '%' && c.column == 0 then
    let s ← s.closeDocument
    let (d, c) ← s.cursor.takeDirective
    return { s.push (.directive d) with cursor := c }
  else if c.column == 0 && c.atMarker then
    let s ← s.closeDocument
    return (s.push (if x == '-' then .documentStart else .documentEnd)).skip 3
  else if x == '[' then s.openFlow .flowSequence
  else if x == '{' then s.openFlow .flowMapping
  else if x == ']' then s.closeFlow .flowSequenceEnd
  else if x == '}' then s.closeFlow .flowMappingEnd
  else if x == ',' then
    let s ← { s with keyAllowed := true }.dropKey
    return s.sign .flowEntry
  else if x == '-' && isGap y then s.blockEntry
  else if x == '?' && (s.inFlow || isGap y) then s.keySign
  else if x == ':' && (s.inFlow || isGap y) then s.valueSign
  else if x == '*' then
    let s ← s.markKey
    let (name, c) ← s.cursor.takeAnchor
    return s.keyToken (.alias name) c
  else if x == '&' then
    let s ← s.markKey
    let (name, c) ← s.cursor.takeAnchor
    return s.keyToken (.anchor name) c
  else if x == '!' then
    let s ← s.markKey
    let (t, c) ← s.cursor.takeTag
    return s.keyToken (.tag t) c
  else if (x == '|' || x == '>') && !s.inFlow then
    let s ← { s with keyAllowed := true }.dropKey
    let (text, c) ← s.cursor.takeBlock s.indent
    return { s.push (.scalar text false) with cursor := c }
  else if x == '\'' || x == '"' then
    let s ← s.markKey
    let (text, c) ← s.cursor.takeQuoted
    return s.keyToken (.scalar text false) c
  else if s.atPlain then
    let s ← s.markKey
    let (text, ended, c) := s.cursor.takePlain s.inFlow s.indent
    return { s.push (.scalar text true) with cursor := c, keyAllowed := ended }
  else .error .invalid

/-- All tokens from a state on, the last first. -/
def run : Nat → Layout → List Token
  | 0, s => .failure .invalid :: s.tokens
  | fuel + 1, s =>
      if s.finished then s.tokens
      else match s.step with
        | .error e => .failure e :: s.tokens
        | .ok s => run fuel s

end Layout

/-- The tokens of a text. A byte order mark in front is passed over. -/
def tokens (cs : List Char) : List Token :=
  if cs.all isDocumentChar then
    let s := Layout.start cs
    let s := if s.cursor.peek.toNat == 0xfeff then s.skip 1 else s
    (Layout.run (cs.length + 2) s).reverse
  else [.failure .invalid]

end Timetable.Yaml
