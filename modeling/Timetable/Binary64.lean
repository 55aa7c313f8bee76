import Timetable.Text.Decimal

/-!
Binary floating point numbers of 64 bits as exact values: a finite number is a whole number times a
power of two. Rounding goes to the nearest number, a tie to the even one. The written form has the
fewest digits that round back to the number, and of those the nearest.
-/
namespace Timetable

/-- A number of the binary64 format. -/
inductive Binary64 where
  | nan
  | infinite (negative : Bool)
  /-- The value `mantissa * 2 ^ exponent`, with its sign. -/
  | finite (negative : Bool) (mantissa : Nat) (exponent : Int)
  deriving DecidableEq, Repr

namespace Binary64

def zero : Binary64 := .finite false 0 0

/-- The quotient of two numbers rounded to nearest, a tie to even. -/
def roundDiv (num den : Nat) : Nat :=
  let q := num / den
  let r := num % den
  if 2 * r > den || (2 * r == den && q % 2 == 1) then q + 1 else q

/-- The quotient `num / den / 2 ^ e` as a fraction. -/
def scale (num den : Nat) (e : Int) : Nat × Nat :=
  if 0 ≤ e then (num, den <<< e.toNat) else (num <<< (-e).toNat, den)

/-- The quotient `num / den / 10 ^ k` as a fraction. -/
def scaleTen (num den : Nat) (k : Int) : Nat × Nat :=
  if 0 ≤ k then (num, den * Nat.pow 10 k.toNat) else (num * Nat.pow 10 (-k).toNat, den)

/-- Mantissas have up to 53 bits. -/
def mantissaBound : Nat := 1 <<< 53

/-- The number nearest to the fraction `num / den`. -/
def ofFraction (negative : Bool) (num den : Nat) : Binary64 :=
  if num = 0 then .finite negative 0 0
  else
    let e := max ((num.log2 : Int) - den.log2 - 53) (-1074)
    let (n, d) := scale num den e
    let e := if n / d < mantissaBound then e else e + 1
    let (n, d) := scale num den e
    let m := roundDiv n d
    let (m, e) := if m = mantissaBound then (1 <<< 52, e + 1) else (m, e)
    if e > 971 then .infinite negative
    else if m = 0 then .finite negative 0 0
    else .finite negative m e

/-- The number nearest to `digits * 10 ^ exponent`. Exponents far outside the range of the format
are decided without computing the power. -/
def ofDecimal (negative : Bool) (digits : Nat) (exponent : Int) : Binary64 :=
  let size := (Text.decimal digits).length + exponent
  if digits = 0 then .finite negative 0 0
  else if size > 310 then .infinite negative
  else if size < -330 then .finite negative 0 0
  else
    let (n, d) := scaleTen digits 1 (-exponent)
    ofFraction negative n d

/-- A finite number as a signed fraction whose denominator is a power of two. -/
def fraction? : Binary64 → Option (Int × Nat)
  | .finite negative m e =>
      let (n, d) := scale m 1 (-e)
      some (if negative then -(n : Int) else n, d)
  | _ => none

def isNegative : Binary64 → Bool
  | .nan => false
  | .infinite negative => negative
  | .finite negative _ _ => negative

def negate : Binary64 → Binary64
  | .nan => .nan
  | .infinite negative => .infinite !negative
  | .finite negative m e => .finite (!negative) m e

def add (a b : Binary64) : Binary64 :=
  match a, b with
  | .nan, _ => .nan
  | _, .nan => .nan
  | .infinite s, .infinite t => if s = t then .infinite s else .nan
  | .infinite s, _ => .infinite s
  | _, .infinite t => .infinite t
  | _, _ =>
      match a.fraction?, b.fraction? with
      | some (n, d), some (n', d') =>
          let sum := n * d' + n' * d
          let negative := if sum = 0 then a.isNegative && b.isNegative else decide (sum < 0)
          ofFraction negative sum.natAbs (d * d')
      | _, _ => .nan

/-- The rounded product with a whole number that is not zero. -/
def scaleBy (a : Binary64) (k : Int) : Binary64 :=
  match a with
  | .nan => .nan
  | .infinite negative => .infinite (negative != decide (k < 0))
  | .finite negative m e =>
      let (n, d) := scale m 1 (-e)
      ofFraction (negative != decide (k < 0)) (n * k.natAbs) d

def toInt? (a : Binary64) : Option Int :=
  match a.fraction? with
  | some (n, d) => if n % d = 0 then some (n / d) else none
  | none => none

/-- Equality of values: both zeros are equal, and nothing equals a number that is not one. -/
def sameValue (a b : Binary64) : Bool :=
  match a, b with
  | .nan, _ => false
  | _, .nan => false
  | .infinite s, .infinite t => s == t
  | _, _ =>
      match a.fraction?, b.fraction? with
      | some (n, d), some (n', d') => n * d' == n' * d
      | _, _ => false

/-- The value `num / den` with `count` digits before the point: the exponent `k` for which
`10 ^ (count - 1) ≤ num / den / 10 ^ k < 10 ^ count`, searched from a bound downwards. -/
def gridExponent (num den count : Nat) : Nat → Int → Int
  | 0, k => k
  | fuel + 1, k =>
      let (n, d) := scaleTen num den k
      if Nat.pow 10 (count - 1) * d ≤ n then k else gridExponent num den count fuel (k - 1)

/-- The decimals with `count` digits next to `num / den` that round to the same number as it, the
nearest of them. -/
def onGrid? (target : Binary64) (num den count : Nat) : Option (Nat × Int) :=
  let guess : Int := ((num.log2 : Int) - den.log2 + 1) * 30103 / 100000 + 2 - count
  let k := gridExponent num den count 6 guess
  let (n, d) := scaleTen num den k
  let near := roundDiv n d
  let far := if near = n / d then near + 1 else n / d
  if ofDecimal false near k = target then some (near, k)
  else if ofDecimal false far k = target then some (far, k)
  else none

/-- Looks for the fewest digits, starting with `count`. -/
def shortestFrom (target : Binary64) (num den : Nat) : Nat → Nat → Nat × Int
  | 0, _ => (0, 0)
  | fuel + 1, count =>
      match onGrid? target num den count with
      | some r => r
      | none => shortestFrom target num den fuel (count + 1)

/-- The digits and the place of the decimal point of a positive finite number: the value is
`0.d₁d₂… * 10 ^ point`, without zeros at the end. -/
def shortest (m : Nat) (e : Int) : List Char × Int :=
  let (num, den) := scale m 1 (-e)
  let (digits, k) := shortestFrom (.finite false m e) num den 17 1
  let cs := Text.decimal digits
  let kept := (cs.reverse.dropWhile (· == '0')).reverse
  (kept, cs.length + k)

/-- The written form of a number: positional from `0.0001` up to below `10 ^ 16`, else with an
exponent of two digits or more; a whole number has `.0`. -/
def text : Binary64 → List Char
  | .nan => ['n', 'a', 'n']
  | .infinite negative => (if negative then ['-'] else []) ++ ['i', 'n', 'f']
  | .finite negative m e =>
      (if negative then ['-'] else []) ++
      if m = 0 then ['0', '.', '0']
      else
        let (digits, point) := shortest m e
        if -4 < point ∧ point ≤ 16 then
          if point ≤ 0 then ['0', '.'] ++ List.replicate (-point).toNat '0' ++ digits
          else if digits.length ≤ point.toNat then
            digits ++ List.replicate (point.toNat - digits.length) '0' ++ ['.', '0']
          else digits.take point.toNat ++ '.' :: digits.drop point.toNat
        else
          let x := point - 1
          let mantissa := match digits with
            | [] => []
            | [d] => [d]
            | d :: ds => d :: '.' :: ds
          mantissa ++ 'e' :: (if x < 0 then '-' else '+') :: Text.paddedFull 2 x.natAbs

end Binary64

end Timetable
