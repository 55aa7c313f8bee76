import Timetable.Text.Blank

/-!
Bytes written in base 64. Characters outside the alphabet are passed over, and padding that completes
a group of four ends the text.
-/
namespace Timetable.Yaml.Base64

def sextet? (c : Char) : Option Nat :=
  if c.isUpper then some (c.toNat - 65)
  else if c.isLower then some (c.toNat - 71)
  else if c.isDigit then some (c.toNat + 4)
  else if c = '+' then some 62
  else if c = '/' then some 63
  else none

/-- The bytes of a text after `place` characters of its group, with `left` the bits not used yet, and
`pads` the padding since the last character of the alphabet. A group that is not complete gives no
bytes at all. -/
def decodeFrom (place left pads : Nat) : List Char → Option (List UInt8)
  | [] => if place = 0 then some [] else none
  | c :: cs =>
      if c = '=' then
        if place < 2 then decodeFrom place left pads cs
        else if 4 ≤ place + pads + 1 then some []
        else decodeFrom place left (pads + 1) cs
      else match sextet? c with
        | none => decodeFrom place left pads cs
        | some v =>
            let bits := left * 64 + v
            match place with
            | 0 => decodeFrom 1 v 0 cs
            | 1 => (decodeFrom 2 (bits % 16) 0 cs).map (UInt8.ofNat (bits / 16) :: ·)
            | 2 => (decodeFrom 3 (bits % 4) 0 cs).map (UInt8.ofNat (bits / 4) :: ·)
            | _ => (decodeFrom 0 0 0 cs).map (UInt8.ofNat bits :: ·)

def decode (cs : List Char) : Option (List UInt8) := decodeFrom 0 0 0 cs

end Timetable.Yaml.Base64
