import Timetable.Yaml.Base64
import Timetable.Yaml.Node
import Timetable.Yaml.Number

/-!
The content of nodes: the value that a node stands for. A mapping may take over entries of others with
a merge sign as key. The levels of a document are built from the outside to the inside, so of two
errors the one on the outer level counts, and on one level the first. Main definition: `Node.content`.
-/
namespace Timetable.Yaml

/-- An error and how many levels below a node it is. -/
structure Fault where
  depth : Nat
  error : Error
  deriving DecidableEq, Repr

namespace Fault

def here (e : Error) : Fault := ⟨0, e⟩

def below (f : Fault) : Fault := { f with depth := f.depth + 1 }

def prior (f g : Fault) : Fault := if g.depth < f.depth then g else f

def both {α β γ : Type} (join : α → β → γ) :
    Except Fault α → Except Fault β → Except Fault γ
  | .ok a, .ok b => .ok (join a b)
  | .ok _, .error g => .error g
  | .error f, .ok _ => .error f
  | .error f, .error g => .error (f.prior g)

end Fault

/-! ### Single values -/

/-- The first six digits of a fraction of a second, in microseconds. -/
def microseconds (fraction : List Char) : Nat :=
  ((fraction ++ ['0', '0', '0', '0', '0', '0']).take 6).foldl
    (fun n d => 10 * n + (d.toNat - '0'.toNat)) 0

def OffsetFields.seconds (o : OffsetFields) : Int :=
  let n : Int := 3600 * o.hours + 60 * o.minutes
  if o.negative then -n else n

def ClockFields.time (f : ClockFields) : Except Error TimeOfDay :=
  match TimeOfDay.ofClock? f.hour f.minute f.second (microseconds f.fraction) with
  | some t => .ok t
  | none => .error (if f.hour > 23 then .hour else if f.minute > 59 then .minute else .second)

/-- The date or the moment with the given numbers. The distance from universal time is checked first,
then the date, then the time of day. -/
def StampFields.value (f : StampFields) : Except Error Value := do
  let offset := f.clock.bind fun c => c.offset.map OffsetFields.seconds
  let tooFar := match offset with
    | some s => Nat.ble 86400 s.natAbs
    | none => false
  if tooFar then throw (.offset (offset.getD 0))
  let date ← (Date.make f.year f.month f.day).mapError Error.date
  match f.clock with
  | none => return .date date
  | some c => return .moment date (← c.time) offset

def valueOf (tag : Tag) (cs : List Char) : Except Error Value :=
  match tag with
  | .null => .ok .null
  | .text => .ok (.text (String.ofList cs))
  | .bool =>
      let word := Text.lowerFrom [] cs
      match truth? word with
      | some b => .ok (.bool b)
      | none => .error (.notTruth (String.ofList word))
  | .int => (readInt cs).map .int
  | .float => (readFloat cs).map .float
  | .binary =>
      if cs.all fun c => Nat.ble c.toNat 127 then
        match Base64.decode cs with
        | some bytes => .ok (.bytes bytes)
        | none => .error .invalid
      else .error .invalid
  | .timestamp =>
      match readStamp (dropLastBreak cs) with
      | some f => f.value
      | none => .error .notTimestamp
  | _ => .error .invalid

namespace Node

def isCollection : Tag → Bool
  | .sequence | .mapping | .set | .orderedMap | .pairs => true
  | _ => false

mutual

/-- The text of a node: of a scalar, or of a mapping at its value sign. -/
def text? : Node → Option (List Char)
  | .scalar _ text => some text
  | .mapping _ entries => textAtSign entries
  | _ => none

def textAtSign : List (Node × Node) → Option (List Char)
  | [] => none
  | (k, v) :: entries => if k.tag == .value then text? v else textAtSign entries

end

mutual

/-- A merge sign stands only before mappings, in these mappings too. -/
def canMerge : Node → Bool
  | .mapping _ entries => canMergeAll entries
  | .cycle isMapping _ => isMapping
  | _ => false

def canMergeItems : List Node → Bool
  | [] => true
  | n :: ns => canMerge n && canMergeItems ns

def canMergeAll : List (Node × Node) → Bool
  | [] => true
  | (k, v) :: entries =>
      (k.tag != .merge || match v with
        | .sequence _ items => canMergeItems items
        | .cycle false _ => true
        | v => canMerge v) && canMergeAll entries

end

/-- A key of a mapping is built first; what may not be a key is an error of the mapping's own level. -/
def asKey (r : Except Fault Value) : Except Fault Value :=
  match r with
  | .ok v => if v.isKey then .ok v else .error (.here .invalid)
  | .error f => .error (if f.depth = 0 then f else .here .invalid)

/-- All entries of a mapping, those that it takes over first, if what it takes over can be merged. -/
def allFields (mergeable : Bool) (merged own : Except Fault (List (Value × Value))) :
    Except Fault (List (Value × Value)) :=
  if mergeable then Fault.both (· ++ ·) merged own else .error (.here .invalid)

def keysOf : Value → List Value
  | .map entries => entries.map (·.1)
  | _ => []

def signKey (k : Node) : Except Fault Value :=
  match text? k with
  | some text => .ok (.text (String.ofList text))
  | none => .error (.here .invalid)

mutual

def content : Node → Except Fault Value
  | .scalar tag text =>
      if isCollection tag then .error ⟨1, .invalid⟩
      else (valueOf tag text).mapError .here
  | .sequence tag items =>
      match tag with
      | .sequence => ((contents items).map .list).mapError .below
      | .orderedMap | .pairs => ((pairs items).map .list).mapError .below
      | tag => .error (if isCollection tag then ⟨1, .invalid⟩ else .here .invalid)
  | .mapping tag entries =>
      let fields := allFields (canMergeAll entries) (mergedFields entries) (ownFields entries)
      match tag with
      | .mapping => (fields.map Value.ofEntries).mapError .below
      | .set => (fields.map fun es => .set (keysOf (Value.ofEntries es))).mapError .below
      | tag =>
          if isCollection tag then .error ⟨1, .invalid⟩
          else match textAtSign entries with
            | some text => (valueOf tag text).mapError .here
            | none => .error (.here .invalid)
  | .cycle true _ => .ok (.map [])
  | .cycle false _ => .ok (.list [])

def contents : List Node → Except Fault (List Value)
  | [] => .ok []
  | n :: ns => Fault.both (· :: ·) (content n) (contents ns)

def pairs : List Node → Except Fault (List Value)
  | [] => .ok []
  | n :: ns =>
      let first : Except Fault Value := match n with
        | .mapping _ [(k, v)] => Fault.both (fun a b => .tuple [a, b]) (content k) (content v)
        | _ => .error (.here .invalid)
      Fault.both (· :: ·) first (pairs ns)

/-- The entries of other mappings that a mapping takes over. -/
def mergedFields : List (Node × Node) → Except Fault (List (Value × Value))
  | [] => .ok []
  | (k, v) :: entries =>
      let first : Except Fault (List (Value × Value)) :=
        if k.tag == .merge then
          match v with
          | .mapping _ es => Fault.both (· ++ ·) (mergedFields es) (ownFields es)
          | .sequence _ items => mergedItems items
          | _ => .ok []
        else .ok []
      Fault.both (· ++ ·) first (mergedFields entries)

/-- The entries of mappings in a list, those of the last one first. -/
def mergedItems : List Node → Except Fault (List (Value × Value))
  | [] => .ok []
  | n :: ns =>
      let first : Except Fault (List (Value × Value)) := match n with
        | .mapping _ es => Fault.both (· ++ ·) (mergedFields es) (ownFields es)
        | _ => .ok []
      Fault.both (· ++ ·) (mergedItems ns) first

/-- The entries that stand in a mapping itself. A value sign as key is a text. -/
def ownFields : List (Node × Node) → Except Fault (List (Value × Value))
  | [] => .ok []
  | (k, v) :: entries =>
      if k.tag == .merge then ownFields entries
      else
        let key := if k.tag == .value then signKey k else content k
        Fault.both (· :: ·) (Fault.both Prod.mk (asKey key) (content v)) (ownFields entries)
end

end Node

end Timetable.Yaml
