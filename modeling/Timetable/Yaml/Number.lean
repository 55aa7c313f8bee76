import Timetable.Binary64
import Timetable.Text.Case
import Timetable.Text.Numeral
import Timetable.Text.Split
import Timetable.Yaml.Cursor

/-!
Numbers of documents. Whole numbers are written in base 2, 8, 10 or 16, or in base 60 with colons;
underscores between digits do not count.
-/
namespace Timetable.Yaml

/-- The value of a digit below `base`, in either letter case. -/
def digitBelow (base : Nat) (c : Char) : Option Nat :=
  let value := match Text.digit? c with
    | some d => some d
    | none =>
        if c.isLower then some (c.toNat - 87)
        else if c.isUpper then some (c.toNat - 55)
        else none
  value.bind fun d => if d < base then some d else none

/-- A mark of the base in front of the digits is passed over. -/
def skipBaseMark (base : Nat) : List Char → List Char
  | '0' :: c :: cs =>
      let x := c.toLower
      if (base == 16 && x == 'x') || (base == 8 && x == 'o') || (base == 2 && x == 'b') then cs
      else '0' :: c :: cs
  | cs => cs

/-- A whole number in a base, with blanks around it and a sign in front allowed. -/
def readInBase (base : Nat) (cs : List Char) : Except Error Int :=
  if base = 10 then
    match Text.Numeral.read cs with
    | .ok n => .ok n
    | .error (.malformed text) => .error (.notInteger 10 text)
    | .error (.tooLong n) => .error (.tooLong n)
  else
    let fail := Error.notInteger base (String.ofList cs)
    let (negative, rest) := Text.Numeral.sign (cs.dropWhile Text.Numeral.isPad)
    let body := skipBaseMark base rest
    let digits := body.takeWhile fun c => (digitBelow base c).isSome
    if digits.isEmpty || !(body.drop digits.length).all Text.Numeral.isPad then .error fail
    else
      let n := digits.foldl (fun n c => base * n + (digitBelow base c).getD 0) 0
      .ok (if negative then -(n : Int) else n)

def readAll {α : Type} (read : List Char → Except Error α) :
    List (List Char) → Except Error (List α)
  | [] => .ok []
  | cs :: rest =>
      match read cs with
      | .error e => .error e
      | .ok a => (readAll read rest).map (a :: ·)

def sixtieths (ns : List Int) : Int :=
  ns.foldl (fun n d => 60 * n + d) 0

/-- A sign in front, `true` for a minus, and the rest; there has to be something in front. -/
def takeSign : List Char → Except Error (Bool × List Char)
  | [] => .error .emptyNumber
  | '-' :: cs => .ok (true, cs)
  | '+' :: cs => .ok (false, cs)
  | cs => .ok (false, cs)

def readInt (text : List Char) : Except Error Int :=
  match takeSign (text.filter (· != '_')) with
  | .error e => .error e
  | .ok (negative, cs) =>
      let magnitude : Except Error Int :=
        match cs with
        | [] => .error .emptyNumber
        | ['0'] => .ok 0
        | '0' :: 'b' :: ds => readInBase 2 ds
        | '0' :: 'x' :: ds => readInBase 16 ds
        | '0' :: _ => readInBase 8 cs
        | _ =>
            if cs.contains ':' then
              (readAll (readInBase 10) (Text.splitAt ':' cs)).map sixtieths
            else readInBase 10 cs
      magnitude.map fun n => if negative then -n else n

/-- The digits of a decimal number: those before the point, those after it, and the rest. -/
def takeDecimal (cs : List Char) : List Nat × List Nat × List Char :=
  let whole := cs.takeWhile fun c => (Text.digit? c).isSome
  let rest := cs.drop whole.length
  let values (ds : List Char) := ds.filterMap Text.digit?
  match rest with
  | '.' :: rest =>
      let fraction := rest.takeWhile fun c => (Text.digit? c).isSome
      (values whole, values fraction, rest.drop fraction.length)
  | rest => (values whole, [], rest)

/-- An exponent that ends the text; it may be missing. -/
def readExponent : List Char → Option Int
  | [] => some 0
  | e :: cs =>
      if e.toLower = 'e' then
        let (negative, ds) := Text.Numeral.sign cs
        let values := ds.filterMap Text.digit?
        if ds.isEmpty || values.length != ds.length then none
        else
          let n : Int := Text.Numeral.ofDigits values
          some (if negative then -n else n)
      else none

/-- A decimal number, an infinity or no number, with blanks around it and a sign in front allowed. -/
def readDecimal (text : List Char) : Except Error Binary64 :=
  let fail := Error.notFloat (String.ofList text)
  let trimmed := (text.dropWhile Text.Numeral.isPad).reverse.dropWhile Text.Numeral.isPad |>.reverse
  let (negative, cs) := Text.Numeral.sign trimmed
  let lowered := cs.map Char.toLower
  if lowered == "inf".toList || lowered == "infinity".toList then .ok (.infinite negative)
  else if lowered == "nan".toList then .ok .nan
  else
    let (whole, fraction, rest) := takeDecimal cs
    if whole.isEmpty && fraction.isEmpty then .error fail
    else match readExponent rest with
      | none => .error fail
      | some x =>
          .ok (Binary64.ofDecimal negative (Text.Numeral.ofDigits (whole ++ fraction))
            (x - fraction.length))

/-- The value of digits of base 60, each a decimal number, the last one first. -/
def sixtiethFloats (base : Int) (sum : Binary64) : List Binary64 → Binary64
  | [] => sum
  | d :: ds => sixtiethFloats (base * 60) (sum.add (d.scaleBy base)) ds

def readFloat (text : List Char) : Except Error Binary64 :=
  match takeSign (Text.lowerFrom [] (text.filter (· != '_'))) with
  | .error e => .error e
  | .ok (negative, cs) =>
      let magnitude : Except Error Binary64 :=
        if cs == ".inf".toList then .ok (.infinite false)
        else if cs == ".nan".toList then .ok .nan
        else if cs.contains ':' then
          (readAll readDecimal (Text.splitAt ':' cs)).map fun ds =>
            sixtiethFloats 1 Binary64.zero ds.reverse
        else readDecimal cs
      magnitude.map fun x => if negative then x.negate else x

end Timetable.Yaml
