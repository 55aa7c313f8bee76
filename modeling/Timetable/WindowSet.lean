import Timetable.Expression

/-!
Sets of windows. A set is open whenever one of its windows is; the set without windows is never
open. A set is read from a list of expressions, all of which have to be accepted.
-/
namespace Timetable

/-- Windows of which one has to be open. -/
structure WindowSet where
  windows : List Window
  deriving DecidableEq, Repr

namespace WindowSet

def size (s : WindowSet) : Nat := s.windows.length

def isEmpty (s : WindowSet) : Bool := s.windows.isEmpty

def contains (s : WindowSet) (i : Instant) : Bool :=
  s.windows.any fun w => w.contains i

theorem contains_iff (s : WindowSet) (i : Instant) :
    s.contains i = true ↔ ∃ w ∈ s.windows, w.contains i = true := by
  simp [contains]

/-- The instants at which a set is open, in the given order. -/
def select (s : WindowSet) (is : List Instant) : List Instant :=
  is.filter s.contains

/-- The written form: the written forms of the windows with commas between them. -/
def render (s : WindowSet) : String :=
  Text.join ", " (s.windows.map Window.render)

/-- What a list of expressions stands for. -/
inductive Reading (α : Type) where
  | accepted (s : WindowSet)
  /-- The first item that is not accepted, with the reason. -/
  | rejected (item : α) (r : Expression.Rejection)
  | faulty (e : Expression.Fault)

/-- Reads items one after the other up to the first that is not accepted. -/
def readItems {α : Type} (read : α → Expression.Reading) : List α → Reading α
  | [] => .accepted ⟨[]⟩
  | item :: items =>
      match read item with
      | .faulty e => .faulty e
      | .rejected r => .rejected item r
      | .accepted w =>
          match readItems read items with
          | .accepted s => .accepted ⟨w :: s.windows⟩
          | other => other

/-- The items that are not accepted, in order. -/
def rejectedItems {α : Type} (read : α → Expression.Reading) :
    List α → Except Expression.Fault (List α)
  | [] => .ok []
  | item :: items =>
      match read item with
      | .faulty e => .error e
      | .accepted _ => rejectedItems read items
      | .rejected _ => (rejectedItems read items).map (item :: ·)

end WindowSet

end Timetable
