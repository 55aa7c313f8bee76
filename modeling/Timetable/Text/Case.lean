import Timetable.Text.CaseTable

/-!
Lower and upper case of texts in every script. A letter may become several letters, and the lower
case of the capital sigma depends on the letters around it.
-/
namespace Timetable.Text

/-- The lower case form of one character, its surroundings left aside. -/
def lowerChar (c : Char) : List Char :=
  let n := c.toNat
  if n < 0x80 then [c.toLower]
  else if n = 0x130 then ['i', Char.ofNat 0x307]
  else match lowerRuns.findSome? fun r => r.apply? n with
    | some m => [Char.ofNat m]
    | none => [c]

def upperChar (c : Char) : List Char :=
  let n := c.toNat
  if n < 0x80 then [c.toUpper]
  else match upperExpansions.find? fun e => e.1 == n with
    | some e => e.2.map Char.ofNat
    | none => match upperRuns.findSome? fun r => r.apply? n with
      | some m => [Char.ofNat m]
      | none => [c]

def isCased (c : Char) : Bool :=
  if c.toNat < 0x80 then c.isAlpha else inBlocks casedBlocks c

/-- Marks that are skipped when the letters around a letter are looked for. -/
def isCaseSkipped (c : Char) : Bool :=
  inBlocks caseSkippedBlocks c

def nextIsCased (cs : List Char) : Bool :=
  match cs.dropWhile isCaseSkipped with
  | [] => false
  | c :: _ => isCased c

/-- The lower case of a text. A capital sigma becomes a final sigma after a letter and before no
letter; `before` holds the characters already passed, the nearest first. -/
def lowerFrom (before : List Char) : List Char → List Char
  | [] => []
  | c :: cs =>
      let here :=
        if c.toNat = 0x3a3 then
          [Char.ofNat (if nextIsCased before && !nextIsCased cs then 0x3c2 else 0x3c3)]
        else lowerChar c
      here ++ lowerFrom (c :: before) cs

def lower (s : String) : String :=
  String.ofList (lowerFrom [] s.toList)

def upper (s : String) : String :=
  String.ofList (s.toList.flatMap upperChar)

theorem lowerChar_ascii {c : Char} (h : c.toNat < 0x80) : lowerChar c = [c.toLower] := by
  simp [lowerChar, h]

theorem lowerFrom_ascii (before cs : List Char) (h : ∀ c ∈ cs, c.toNat < 0x80) :
    lowerFrom before cs = cs.map Char.toLower := by
  induction cs generalizing before with
  | nil => rfl
  | cons c cs ih =>
      have hc : c.toNat < 0x80 := h c (by simp)
      have hs : c.toNat ≠ 0x3a3 := by omega
      simp [lowerFrom, hs, lowerChar_ascii hc, ih (c :: before) fun d hd => h d (by simp [hd])]

end Timetable.Text
