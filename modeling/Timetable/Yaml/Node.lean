import Timetable.Yaml.Resolve
import Timetable.Yaml.Token

/-!
Nodes: the tree of a document, each node with its kind. An alias stands for the node with its anchor;
inside that node itself the alias is a cycle. The cycles through the whole document are gone round
once. Main definition: `Node.ofTokens`.
-/
namespace Timetable.Yaml

/-- A node of a document. -/
inductive Node where
  | scalar (tag : Tag) (text : List Char)
  | sequence (tag : Tag) (items : List Node)
  | mapping (tag : Tag) (entries : List (Node × Node))
  /-- The sequence, or the mapping, that starts at `place` and that this node is in. -/
  | cycle (isMapping : Bool) (place : Nat)

namespace Node

def tag : Node → Tag
  | scalar t _ => t
  | sequence t _ => t
  | mapping t _ => t
  | cycle true _ => .mapping
  | cycle false _ => .sequence

def empty : Node := .scalar .null []

mutual

/-- A node with `whole` in place of the cycles through the node that starts at `place`. -/
def unroll (place : Nat) (whole : Node) : Node → Node
  | scalar t text => .scalar t text
  | sequence t items => .sequence t (unrollItems place whole items)
  | mapping t entries => .mapping t (unrollEntries place whole entries)
  | cycle isMapping p => if p = place then whole else .cycle isMapping p

def unrollItems (place : Nat) (whole : Node) : List Node → List Node
  | [] => []
  | n :: ns => unroll place whole n :: unrollItems place whole ns

def unrollEntries (place : Nat) (whole : Node) : List (Node × Node) → List (Node × Node)
  | [] => []
  | (k, v) :: entries =>
      (unroll place whole k, unroll place whole v) :: unrollEntries place whole entries

end

/-- What an anchor stands for. -/
inductive Anchored where
  | node (n : Node)
  | pending (isMapping : Bool) (place : Nat)

/-- The tokens to come, the anchors so far, and what abbreviations of tags stand for. -/
structure Source where
  tokens : List Token
  anchors : List (List Char × Anchored)
  handles : List (List Char × List Char)

namespace Source

/-- The source without its next token. -/
def next (s : Source) : Source := { s with tokens := s.tokens.tail }

def anchored? (s : Source) (name : List Char) : Option Anchored :=
  (s.anchors.find? fun a => a.1 == name).map (·.2)

def bind (s : Source) (name : Option (List Char)) (a : Anchored) : Source :=
  match name with
  | none => s
  | some n => { s with anchors := (n, a) :: s.anchors }

def unexpected (s : Source) : Error :=
  match s.tokens with
  | .failure e :: _ => e
  | _ => .invalid

def atEntry (s : Source) : Bool := s.tokens.head? == some .entry

def atBlockGap (s : Source) (forMapping : Bool) : Bool :=
  match s.tokens with
  | .key :: _ => forMapping
  | .value :: _ => forMapping
  | .entry :: _ => !forMapping
  | .blockEnd :: _ => true
  | _ => false

def atFlowGap (s : Source) (closing : Token) : Bool :=
  match s.tokens with
  | .flowEntry :: _ => true
  | t :: _ => t == closing
  | [] => true

def expand (s : Source) (t : TagText) : Except Error (List Char) :=
  match t.handle with
  | none => .ok t.tail
  | some h => match s.handles.find? fun p => p.1 == h with
      | some p => .ok (p.2 ++ t.tail)
      | none => .error .invalid

/-- An anchor and a tag, in either order; both may be missing. -/
def properties (s : Source) : Except Error (Option (List Char) × Option (List Char) × Source) :=
  match s.tokens with
  | .anchor a :: .tag t :: rest => do return (some a, some (← s.expand t), { s with tokens := rest })
  | .tag t :: .anchor a :: rest => do return (some a, some (← s.expand t), { s with tokens := rest })
  | .anchor a :: rest => .ok (some a, none, { s with tokens := rest })
  | .tag t :: rest => do return (none, some (← s.expand t), { s with tokens := rest })
  | _ => .ok (none, none, s)

end Source

/-- The kind of a collection: the one of its tag, if it has a tag of its own. -/
def collectionTag (tag : Option (List Char)) (usual : Tag) : Tag :=
  match tag with
  | none => usual
  | some t => if t == ['!'] then usual else Tag.ofText t

/-- The kind of a text: a plain text without a tag, and any text with the tag `!`, is resolved. -/
def scalarTag (tag : Option (List Char)) (plain : Bool) (text : List Char) : Tag :=
  match tag with
  | none => if plain then resolve text else .text
  | some t => if t == ['!'] then resolve text else Tag.ofText t

mutual

/-- One node. Blocks are allowed if `block` is set, and items without indentation of their own if
`flush` is set. The place of a node is the count of tokens from its start on. `fuel` bounds the
steps. -/
def read (fuel : Nat) (block flush : Bool) (s : Source) : Except Error (Node × Source) :=
  match fuel with
  | 0 => .error s.unexpected
  | fuel + 1 =>
    match s.tokens with
    | .alias name :: rest =>
        match s.anchored? name with
        | some (.node n) => .ok (n, { s with tokens := rest })
        | some (.pending isMapping place) => .ok (.cycle isMapping place, { s with tokens := rest })
        | none => .error .invalid
    | _ => do
        let place := s.tokens.length
        let (anchor, tag, s) ← s.properties
        if (anchor.bind s.anchored?).isSome then .error .invalid
        else if flush && s.atEntry then
          let (items, s) ← readFlush fuel (s.bind anchor (.pending false place))
          let n := Node.sequence (collectionTag tag .sequence) items
          return (n, s.bind anchor (.node n))
        else match s.tokens with
          | .scalar text plain :: rest =>
              let n := Node.scalar (scalarTag tag plain text) text
              return (n, { s with tokens := rest }.bind anchor (.node n))
          | .flowSequence :: rest =>
              let (items, s) ← readFlowItems fuel true
                ({ s with tokens := rest }.bind anchor (.pending false place))
              let n := Node.sequence (collectionTag tag .sequence) items
              return (n, s.bind anchor (.node n))
          | .flowMapping :: rest =>
              let (entries, s) ← readFlowEntries fuel true
                ({ s with tokens := rest }.bind anchor (.pending true place))
              let n := Node.mapping (collectionTag tag .mapping) entries
              return (n, s.bind anchor (.node n))
          | .blockSequence :: rest =>
              if block then
                let (items, s) ← readItems fuel
                  ({ s with tokens := rest }.bind anchor (.pending false place))
                let n := Node.sequence (collectionTag tag .sequence) items
                return (n, s.bind anchor (.node n))
              else .error .invalid
          | .blockMapping :: rest =>
              if block then
                let (entries, s) ← readEntries fuel
                  ({ s with tokens := rest }.bind anchor (.pending true place))
                let n := Node.mapping (collectionTag tag .mapping) entries
                return (n, s.bind anchor (.node n))
              else .error .invalid
          | _ =>
              if anchor.isSome || tag.isSome then
                let n := Node.scalar (scalarTag tag true []) []
                return (n, s.bind anchor (.node n))
              else .error s.unexpected

/-- The items of a block, up to its end. -/
def readItems (fuel : Nat) (s : Source) : Except Error (List Node × Source) :=
  match fuel with
  | 0 => .error s.unexpected
  | fuel + 1 =>
    match s.tokens with
    | .entry :: _ => do
        let s := s.next
        let (n, s) ← if s.atBlockGap false then pure (empty, s) else read fuel true false s
        let (ns, s) ← readItems fuel s
        return (n :: ns, s)
    | .blockEnd :: _ => .ok ([], s.next)
    | _ => .error s.unexpected

/-- The items of a sequence that is indented like the mapping around it. -/
def readFlush (fuel : Nat) (s : Source) : Except Error (List Node × Source) :=
  match fuel with
  | 0 => .error s.unexpected
  | fuel + 1 =>
    match s.tokens with
    | .entry :: _ => do
        let s := s.next
        let (n, s) ←
          if s.atBlockGap false || s.atBlockGap true then pure (empty, s) else read fuel true false s
        let (ns, s) ← readFlush fuel s
        return (n :: ns, s)
    | _ => .ok ([], s)

/-- The entries of a block, up to its end. -/
def readEntries (fuel : Nat) (s : Source) : Except Error (List (Node × Node) × Source) :=
  match fuel with
  | 0 => .error s.unexpected
  | fuel + 1 =>
    match s.tokens with
    | .key :: _ => do
        let s := s.next
        let (k, s) ← if s.atBlockGap true then pure (empty, s) else read fuel true true s
        let (v, s) ← readValue fuel s
        let (es, s) ← readEntries fuel s
        return ((k, v) :: es, s)
    | .value :: _ => .error .invalid
    | .blockEnd :: _ => .ok ([], s.next)
    | _ => .error s.unexpected

/-- The value after a key of a block; it may be missing. -/
def readValue (fuel : Nat) (s : Source) : Except Error (Node × Source) :=
  match fuel with
  | 0 => .error s.unexpected
  | fuel + 1 =>
    match s.tokens with
    | .value :: _ =>
        if s.next.atBlockGap true then .ok (empty, s.next) else read fuel true true s.next
    | _ => .ok (empty, s)

/-- The items of a flow sequence, up to its end. An item may be a mapping of one entry. -/
def readFlowItems (fuel : Nat) (first : Bool) (s : Source) : Except Error (List Node × Source) :=
  match fuel with
  | 0 => .error s.unexpected
  | fuel + 1 =>
    match s.tokens with
    | .flowSequenceEnd :: _ => .ok ([], s.next)
    | _ => do
        let s ←
          if first then pure s
          else match s.tokens with
            | .flowEntry :: _ => pure s.next
            | _ => .error s.unexpected
        match s.tokens with
        | .flowSequenceEnd :: _ => return ([], s.next)
        | .key :: _ =>
            let s := s.next
            let (k, s) ←
              if s.atFlowGap .flowSequenceEnd || s.tokens.head? == some .value then pure (empty, s)
              else read fuel false false s
            let (v, s) ← readFlowValue fuel .flowSequenceEnd s
            let (ns, s) ← readFlowItems fuel false s
            return (.mapping .mapping [(k, v)] :: ns, s)
        | _ =>
            let (n, s) ← read fuel false false s
            let (ns, s) ← readFlowItems fuel false s
            return (n :: ns, s)

/-- The entries of a flow mapping, up to its end. A key may stand alone. -/
def readFlowEntries (fuel : Nat) (first : Bool) (s : Source) :
    Except Error (List (Node × Node) × Source) :=
  match fuel with
  | 0 => .error s.unexpected
  | fuel + 1 =>
    match s.tokens with
    | .flowMappingEnd :: _ => .ok ([], s.next)
    | _ => do
        let s ←
          if first then pure s
          else match s.tokens with
            | .flowEntry :: _ => pure s.next
            | _ => .error s.unexpected
        match s.tokens with
        | .flowMappingEnd :: _ => return ([], s.next)
        | .key :: _ =>
            let s := s.next
            let (k, s) ←
              if s.atFlowGap .flowMappingEnd || s.tokens.head? == some .value then pure (empty, s)
              else read fuel false false s
            let (v, s) ← readFlowValue fuel .flowMappingEnd s
            let (es, s) ← readFlowEntries fuel false s
            return ((k, v) :: es, s)
        | _ =>
            let (k, s) ← read fuel false false s
            let (es, s) ← readFlowEntries fuel false s
            return ((k, empty) :: es, s)

/-- The value after a key of a flow collection; it may be missing. -/
def readFlowValue (fuel : Nat) (closing : Token) (s : Source) : Except Error (Node × Source) :=
  match fuel with
  | 0 => .error s.unexpected
  | fuel + 1 =>
    match s.tokens with
    | .value :: _ =>
        if s.next.atFlowGap closing then .ok (empty, s.next) else read fuel false false s.next
    | _ => .ok (empty, s)

end

/-- What abbreviations of tags stand for if nothing is declared. -/
def usualHandles : List (List Char × List Char) :=
  [(['!'], ['!']), (['!', '!'], tagStem)]

/-- The declarations before a document: the version at most once, and it has to be 1; each
abbreviation at most once. -/
def readDirectives (version : Bool) (handles : List (List Char × List Char)) :
    List Token → Except Error (List (List Char × List Char) × List Token)
  | .directive (.version major) :: rest =>
      if version || major != 1 then .error .invalid else readDirectives true handles rest
  | .directive (.handle h stem) :: rest =>
      if handles.any fun p => p.1 == h then .error .invalid
      else readDirectives version ((h, stem) :: handles) rest
  | .directive .other :: rest => readDirectives version handles rest
  | ts => .ok (handles, ts)

def readEnd : List Token → Except Error Unit
  | .documentEnd :: rest => readEnd rest
  | [.finish] => .ok ()
  | .failure e :: _ => .error e
  | _ => .error .invalid

def readDocument (s : Source) : Except Error Node := do
  let (n, rest) ← read (4 * s.tokens.length + 16) true false s
  readEnd rest.tokens
  return n.unroll s.tokens.length n

/-- A document after its start marker; it may be empty. -/
def readContent (s : Source) : Except Error Node :=
  match s.tokens with
  | .directive _ :: _ => .error .invalid
  | .documentStart :: _ => .error .invalid
  | .documentEnd :: rest => (readEnd rest).map fun _ => empty
  | .finish :: _ => .ok empty
  | _ => readDocument s

/-- The node of the only document of a text, if there is one. -/
def ofTokens (ts : List Token) : Except Error (Option Node) :=
  match ts with
  | [.finish] => .ok none
  | .directive _ :: _ => explicit ts
  | .documentStart :: _ => explicit ts
  | _ => (readDocument ⟨ts, [], usualHandles⟩).map some
where
  explicit (ts : List Token) : Except Error (Option Node) := do
    let (handles, ts) ← readDirectives false [] ts
    match ts with
    | .documentStart :: rest => (readContent ⟨rest, [], handles ++ usualHandles⟩).map some
    | .failure e :: _ => .error e
    | _ => .error .invalid

end Node

end Timetable.Yaml
