import Timetable.Page.Lines
import Timetable.Proofs.Text.Ink
import Timetable.Proofs.Text.Split

/-!
A word on a page. Main statement: a row of ink that is not wider than the page stands on one line as it
is.
-/
namespace Timetable

open Text (AreInk IsInk)

variable {cs : List Char}

namespace Text.AreInk

theorem width_eq_length (h : AreInk cs) : Text.width cs = cs.length := by
  induction cs with
  | nil => rfl
  | cons c cs ih =>
      rw [areInk_cons_iff] at h
      rw [Text.width, h.1.cells, ih h.2, List.length_cons, Nat.add_comm]

theorem takeWhile_reverse (h : AreInk cs) : cs.reverse.takeWhile Text.isBlank = [] := by
  rw [List.takeWhile_eq_nil_iff]
  intro hpos
  simpa using (h _ (List.mem_reverse.mp (List.getElem_mem hpos))).not_isBlank

theorem trimEnd_eq (h : AreInk cs) : Text.trimEnd cs = cs := by
  have hsplit := List.takeWhile_append_dropWhile (p := Text.isBlank) (l := cs.reverse)
  rw [h.takeWhile_reverse, List.nil_append] at hsplit
  rw [Text.trimEnd, hsplit, List.reverse_reverse]

theorem splitAt_newline (h : AreInk cs) : Text.splitAt '\n' cs = [cs] :=
  splitAt_of_not_mem fun hmem => absurd (h _ hmem) (by decide)

end Text.AreInk

namespace Page

theorem expandTabs_of_areInk (h : AreInk cs) (column : Nat) : expandTabs column cs = cs := by
  induction cs generalizing column with
  | nil => rfl
  | cons c cs ih =>
      rw [Text.areInk_cons_iff] at h
      have hc : c ≠ '\t' := by
        rintro rfl
        exact absurd h.1 (by decide)
      rw [expandTabs, if_neg hc, ih h.2]

theorem wordsFrom_of_areInk (h : AreInk cs) (word : List Char) :
    wordsFrom word true false cs = [word.reverse ++ cs] := by
  induction cs generalizing word with
  | nil => simp [wordsFrom]
  | cons c cs ih =>
      rw [Text.areInk_cons_iff] at h
      simp [wordsFrom, h.1.not_isBlank, ih h.2]

theorem words_of_areInk (h : AreInk cs) (hne : cs ≠ []) : words cs = [cs] := by
  cases cs with
  | nil => exact absurd rfl hne
  | cons c cs =>
      rw [Text.areInk_cons_iff] at h
      rw [words, wordsFrom, h.1.not_isBlank]
      exact wordsFrom_of_areInk h.2 [c]

theorem wrap_of_areInk {width : Nat} (h : AreInk cs) (hne : cs ≠ []) (hwidth : cs.length ≤ width)
    (o : Overflow) : wrap o width cs = [cs] := by
  have hplaces : breakPlaces o width 0 0 [cs] = [] := by
    simp [breakPlaces, h.trimEnd_eq, h.width_eq_length, hwidth]
  have htrim : trimBeyond width cs = cs := by
    simp [trimBeyond, h.takeWhile_reverse]
  have hfit : fit o width cs = cs := by
    simp [fit, h.width_eq_length, hwidth]
  rw [wrap, h.splitAt_newline]
  simp [expandTabs_of_areInk h, words_of_areInk h hne, hplaces, cutAt, htrim, hfit]

end Page

end Timetable
