/-!
Blocks of code points. The character properties of this library are tables of blocks, in ascending
order, so that membership is one short search.
-/
namespace Timetable.Text

/-- A block of consecutive code points, both ends included. -/
structure Block where
  first : Nat
  last : Nat
  deriving DecidableEq, Repr

def Block.has (b : Block) (c : Char) : Bool :=
  Nat.ble b.first c.toNat && Nat.ble c.toNat b.last

def inBlocks (blocks : List Block) (c : Char) : Bool :=
  blocks.any fun b => b.has c

end Timetable.Text
