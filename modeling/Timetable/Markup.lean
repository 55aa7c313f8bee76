import Timetable.Markup.Style
import Timetable.Text.Blank

/-!
Marked up text: text with tags in brackets that turn styles on and off. A plain terminal shows the text
without its tags. A tag whose name begins with `@` has an action; which parameters an action may have is
not decided here but given as `takes`. Main definitions: `Markup.pieces` cuts a text at its tags, and
`Markup.plain` is what is left of the text.
-/
namespace Timetable.Markup

/-- A tag: what stands before the first equals sign, and what stands after it. -/
structure Tag where
  name : List Char
  parameters : Option (List Char)
  deriving DecidableEq, Repr

/-- A piece of marked up text. -/
inductive Piece where
  | text (cs : List Char)
  | tag (t : Tag)
  deriving DecidableEq, Repr

/-- Why marked up text cannot be shown. -/
inductive Error where
  | unopened
  /-- An action does not take its parameters. -/
  | parameters
  /-- A share of a color is missing. -/
  | color
  deriving DecidableEq, Repr

/-! ### Tags -/

def startsTag (c : Char) : Bool :=
  (Nat.ble 'a'.toNat c.toNat && Nat.ble c.toNat 'z'.toNat) || c == '#' || c == '/' || c == '@'

/-- What stands between brackets at the front of a text, if it is a tag, and the rest. -/
def takeTag : List Char → Option (List Char × List Char)
  | '[' :: c :: cs =>
      if startsTag c then
        let inside := cs.takeWhile fun x => x != '[' && x != ']'
        match cs.drop inside.length with
        | ']' :: rest => some (c :: inside, rest)
        | _ => none
      else none
  | _ => none

def tagOf (inside : List Char) : Tag :=
  let name := inside.takeWhile (· != '=')
  match inside.drop name.length with
  | _ :: parameters => ⟨name, some parameters⟩
  | [] => ⟨name, none⟩

/-- A backslash before a bracket that starts no tag is dropped. -/
def dropEscapes : List Char → List Char
  | '\\' :: '[' :: cs => '[' :: dropEscapes cs
  | c :: cs => c :: dropEscapes cs
  | [] => []

def textPiece (cs : List Char) : List Piece :=
  if cs.isEmpty then [] else [.text (dropEscapes cs)]

/-- The pieces of a text. Of the backslashes before a tag each two stand for one, and one that is left
over takes the tag for text. `before` holds the plain text so far, the last character first. -/
def piecesFrom : Nat → List Char → List Char → List Piece
  | 0, before, cs => textPiece (before.reverse ++ cs)
  | _ + 1, before, [] => textPiece before.reverse
  | fuel + 1, before, c :: cs =>
      let slashes := ((c :: cs).takeWhile (· == '\\')).length
      match takeTag ((c :: cs).drop slashes) with
      | none => piecesFrom fuel (c :: before) cs
      | some (inside, rest) =>
          textPiece before.reverse ++
            (if slashes < 2 then [] else [.text (List.replicate (slashes / 2) '\\')]) ++
            (if slashes % 2 = 1 then Piece.text ('[' :: inside ++ [']']) else .tag (tagOf inside)) ::
              piecesFrom fuel [] rest

def pieces (cs : List Char) : List Piece := piecesFrom (cs.length + 1) [] cs

/-! ### Styles that are open -/

/-- A tag with an action is closed only if the action takes its parameters; it always takes none. -/
def Tag.isClosable (takes : List Char → Bool) (t : Tag) : Bool :=
  t.name.head? != some '@' || t.parameters.all fun ps => ps.isEmpty || takes ps

/-- An open tag is closed: the innermost with the name, or the innermost of all. -/
def close (takes : List Char → Bool) (name : List Char) : List Tag → Except Error (List Tag)
  | [] => .error .unopened
  | t :: ts =>
      if name.isEmpty || t.name == name then
        if t.isClosable takes then .ok ts else .error .parameters
      else (close takes name ts).map (t :: ·)

def normalName (name : List Char) : Except Error (List Char) :=
  match Style.normalName name with
  | some n => .ok n
  | none => .error .color

/-- A tag under the normal form of its name. The words of its parameters belong to its style. -/
def opening (t : Tag) : Except Error Tag :=
  match normalName t.name with
  | .error e => .error e
  | .ok n => match t.parameters with
      | none => .ok ⟨n, none⟩
      | some ps => (normalName (n ++ ' ' :: ps)).map fun _ => ⟨n, some ps⟩

def step (takes : List Char → Bool) (opened : List Tag) (t : Tag) : Except Error (List Tag) :=
  match t.name with
  | '/' :: name =>
      let name := Text.trim name
      if name.isEmpty then close takes [] opened
      else match normalName name with
        | .error e => .error e
        | .ok n => close takes n opened
  | _ => (opening t).map (· :: opened)

/-- Characters that control a terminal instead of being shown. -/
def isControl (c : Char) : Bool :=
  let n := c.toNat
  n == 7 || n == 8 || n == 11 || n == 12 || n == 13

/-- The text of pieces, given the tags that are open before them. -/
def plainFrom (takes : List Char → Bool) (opened : List Tag) : List Piece → Except Error (List Char)
  | [] => .ok []
  | .text cs :: rest =>
      (plainFrom takes opened rest).map ((cs.filter fun c => !isControl c) ++ ·)
  | .tag t :: rest =>
      match step takes opened t with
      | .error e => .error e
      | .ok opened => plainFrom takes opened rest

def plain (takes : List Char → Bool) (cs : List Char) : Except Error (List Char) :=
  plainFrom takes [] (pieces cs)

end Timetable.Markup
