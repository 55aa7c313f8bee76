import Timetable.Text.Split

/-!
Cutting texts of which the pieces are known. Main statement: joined pieces are found again when the text is
cut at the separator, if the first character of the separator is in none of them.
-/
namespace Timetable.Text

variable {sep : Char} {piece : List Char}

theorem splitAt_of_not_mem (h : sep ∉ piece) : splitAt sep piece = [piece] := by
  induction piece with
  | nil => rfl
  | cons c cs ih =>
      have hc : c ≠ sep := fun heq => h (heq ▸ List.mem_cons_self)
      have hcs : sep ∉ cs := fun hmem => h (List.mem_cons_of_mem c hmem)
      simp only [splitAt, ih hcs]
      rw [if_neg hc]

/-- A piece without separators is cut off whole. -/
theorem splitAt_append_cons (h : sep ∉ piece) (rest : List Char) :
    splitAt sep (piece ++ sep :: rest) = piece :: splitAt sep rest := by
  induction piece with
  | nil => simp [splitAt]
  | cons c cs ih =>
      have hc : c ≠ sep := fun heq => h (heq ▸ List.mem_cons_self)
      have hcs : sep ∉ cs := fun hmem => h (List.mem_cons_of_mem c hmem)
      simp only [List.cons_append, splitAt, ih hcs]
      rw [if_neg hc]

/-! ### Separators of several characters -/

/-- The pieces of a text between the occurrences of `sep`, which are found from the front and do not overlap.
`skip` counts the characters of the last occurrence that are still to be passed. -/
def cutFrom (sep : List Char) (skip : Nat) : List Char → List (List Char)
  | [] => [[]]
  | c :: cs =>
      match skip with
      | skip + 1 => cutFrom sep skip cs
      | 0 =>
          if sep.isPrefixOf (c :: cs) then [] :: cutFrom sep (sep.length - 1) cs
          else (cutFrom sep 0 cs).modifyHead (c :: ·)

/-- The pieces of a string between the occurrences of a separator. -/
def cut (sep s : String) : List String :=
  (cutFrom sep.toList 0 s.toList).map String.ofList

section Cut

variable {d : Char} {ds : List Char}

theorem cutFrom_skip (sep front rest : List Char) :
    cutFrom sep front.length (front ++ rest) = cutFrom sep 0 rest := by
  induction front with
  | nil => rfl
  | cons c front ih => simpa [cutFrom] using ih

theorem isPrefixOf_cons_of_ne {c : Char} (h : d ≠ c) (cs : List Char) :
    (d :: ds).isPrefixOf (c :: cs) = false := by
  simp [List.isPrefixOf, h]

theorem cutFrom_of_not_mem (h : d ∉ piece) : cutFrom (d :: ds) 0 piece = [piece] := by
  induction piece with
  | nil => rfl
  | cons c cs ih =>
      have hc : d ≠ c := fun heq => h (heq ▸ List.mem_cons_self)
      have hcs : d ∉ cs := fun hmem => h (List.mem_cons_of_mem c hmem)
      simp [cutFrom, isPrefixOf_cons_of_ne hc, ih hcs]

theorem cutFrom_append (h : d ∉ piece) (rest : List Char) :
    cutFrom (d :: ds) 0 (piece ++ (d :: ds) ++ rest) = piece :: cutFrom (d :: ds) 0 rest := by
  induction piece with
  | nil =>
      have hprefix : (d :: ds).isPrefixOf (d :: (ds ++ rest)) = true := by
        simp [List.isPrefixOf_iff_prefix]
      simp only [List.nil_append, List.cons_append, cutFrom, hprefix, if_true]
      exact congrArg _ (cutFrom_skip (d :: ds) ds rest)
  | cons c cs ih =>
      have hc : d ≠ c := fun heq => h (heq ▸ List.mem_cons_self)
      have hcs : d ∉ cs := fun hmem => h (List.mem_cons_of_mem c hmem)
      rw [List.cons_append, List.cons_append, cutFrom, isPrefixOf_cons_of_ne hc, ih hcs]
      rfl

theorem cutFrom_joinWith {pieces : List (List Char)} (hne : pieces ≠ [])
    (h : ∀ piece ∈ pieces, d ∉ piece) :
    cutFrom (d :: ds) 0 (joinWith (d :: ds) pieces) = pieces := by
  induction pieces with
  | nil => exact absurd rfl hne
  | cons piece pieces ih =>
      rw [List.forall_mem_cons] at h
      cases pieces with
      | nil => exact cutFrom_of_not_mem h.1
      | cons next pieces =>
          rw [joinWith, cutFrom_append h.1, ih (List.cons_ne_nil next pieces) h.2]

/-- Joined strings are found again if the separator begins with a character that is in none of them. -/
theorem cut_join {sep : String} {pieces : List String} (hsep : sep.toList.head? = some d)
    (hne : pieces ≠ []) (h : ∀ piece ∈ pieces, d ∉ piece.toList) : cut sep (join sep pieces) = pieces := by
  obtain ⟨ds, hds⟩ := List.head?_eq_some_iff.mp hsep
  rw [cut, join, String.toList_ofList, hds, cutFrom_joinWith, List.map_map]
  · simp [Function.comp_def]
  · simpa using hne
  · simpa using h

/-- A comma without a blank behind it does not end a piece, and two separators have an empty one between
them. -/
example : cut ", " "a,b, , c" = ["a,b", "", "c"] := by decide

end Cut

end Timetable.Text
