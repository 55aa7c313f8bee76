import Timetable.Proofs.Expression.RoundTrip
import Timetable.Proofs.Text.Split
import Timetable.Proofs.WindowSet.Texts

/-!
The written form of a set. Main statement: cut at its commas, the written form of a set that is read from
texts gives one piece for each window, and the pieces are read as the set.
-/
namespace Timetable

/-- A character that is in no name of a day and no time, and is neither dash nor blank, is in no written
window. -/
theorem Window.not_mem_text {c : Char} (hday : ∀ d : Weekday, c ∉ d.capitalName)
    (htime : ∀ t : TimeOfDay, c ∉ t.clockText) (hdash : c ≠ '-') (hblank : c ≠ ' ') (w : Window) :
    c ∉ w.text := by
  rcases w with ⟨_ | d, _ | s⟩
  · simp [text]
  · simp [text, htime, hdash]
  · simp [text, hday]
  · simp [text, hday, htime, hdash, hblank]

theorem Window.comma_not_mem_text (w : Window) : ',' ∉ w.text := by
  refine not_mem_text ?_ ?_ (by decide) (by decide) w
  · intro d
    cases d <;> decide
  · intro t hmem
    rcases TimeOfDay.digit_or_colon_of_mem_written t.written_clockText _ hmem with hdigit | hcolon
    · exact absurd hdigit (by decide)
    · exact absurd hcolon (by decide)

namespace WindowSet

variable {texts more : List String} {s t : WindowSet}

theorem ofExpressions_listOf_iff : ofExpressions (listOf texts) = .ok s ↔ s.IsReadFrom texts := by
  constructor
  · intro h
    rw [← readItems_listOf_iff]
    simp only [ofExpressions, expressionsOf, listOf, Value.items?] at h
    split at h
    · next t ht =>
        cases h
        exact ht
    · cases h
    · split at h
      · cases h
      · cases h
  · exact ofExpressions_of_isReadFrom

theorem IsReadFrom.windows_ne_nil (h : s.IsReadFrom texts) (hne : texts ≠ []) : s.windows ≠ [] := by
  intro hnil
  have hlength := List.Forall₂.length_eq h
  rw [hnil] at hlength
  exact hne (List.eq_nil_of_length_eq_zero hlength)

/-- The written forms of the windows are texts for the same set. -/
theorem IsReadFrom.render (h : s.IsReadFrom texts) : s.IsReadFrom (s.windows.map Window.render) := by
  rw [IsReadFrom, List.forall₂_map_left_iff, List.forall₂_same]
  intro w hw
  obtain ⟨text, -, hread⟩ := exists_mem_of_forall₂ h.flip hw
  exact Expression.read_render_of_accepted hread

theorem cut_render (h : s.windows ≠ []) : Text.cut ", " s.render = s.windows.map Window.render := by
  have hhead : ", ".toList.head? = some ',' := by decide
  refine Text.cut_join hhead (by simpa using h) ?_
  rw [List.forall_mem_map]
  intro w _
  rw [Window.render, String.toList_ofList]
  exact w.comma_not_mem_text

theorem eq_of_render_eq (hs : s.IsReadFrom texts) (ht : t.IsReadFrom more) (htexts : texts ≠ [])
    (hmore : more ≠ []) (h : s.render = t.render) : s = t := by
  have hwindows : s.windows.map Window.render = t.windows.map Window.render := by
    rw [← cut_render (hs.windows_ne_nil htexts), ← cut_render (ht.windows_ne_nil hmore), h]
  have hread := ofExpressions_of_isReadFrom hs.render
  rw [hwindows, ofExpressions_of_isReadFrom ht.render] at hread
  exact (Except.ok.inj hread).symm

/-- The written form of a set that stands for at least one text has one piece for each window between its
commas, and the pieces stand for the set. So two such sets are written alike only if they are equal. -/
theorem written_set_read_back :
    (∀ texts s, texts ≠ [] → ofExpressions (listOf texts) = .ok s →
      (Text.cut ", " s.render).length = s.size ∧
        ofExpressions (listOf (Text.cut ", " s.render)) = .ok s) ∧
    ∀ texts more s t, texts ≠ [] → more ≠ [] → ofExpressions (listOf texts) = .ok s →
      ofExpressions (listOf more) = .ok t → (s.render = t.render ↔ s = t) := by
  simp only [ofExpressions_listOf_iff]
  constructor
  · intro texts s hne hs
    rw [cut_render (hs.windows_ne_nil hne), List.length_map]
    exact ⟨rfl, hs.render⟩
  · intro texts more s t htexts hmore hs ht
    constructor
    · exact eq_of_render_eq hs ht htexts hmore
    · rintro rfl
      rfl

/-- All of Monday, and Tuesday from a quarter past ten to half past twelve. -/
def mondayAndTuesday : WindowSet :=
  ⟨[⟨some .monday, none⟩, ⟨some .tuesday,
    some ⟨⟨36900000000, by decide⟩, ⟨45000000000, by decide⟩, by decide⟩⟩]⟩

theorem monday_and_tuesday_read_back :
    ofExpressions (listOf ["mon", "tue 10:15-12:30"]) = .ok mondayAndTuesday ∧
      mondayAndTuesday.render = "Monday, Tuesday 10:15:00-12:30:00" ∧
      (Text.cut ", " mondayAndTuesday.render).length = 2 ∧
      ofExpressions (listOf (Text.cut ", " mondayAndTuesday.render)) = .ok mondayAndTuesday ∧
      ∀ t, ofExpressions (listOf [" MON", "Tuesday10:15 - 12:30:00"]) = .ok t →
        t.render = mondayAndTuesday.render → t = mondayAndTuesday := by
  have hread : ofExpressions (listOf ["mon", "tue 10:15-12:30"]) = .ok mondayAndTuesday :=
    ofExpressions_of_isReadFrom (.cons (by decide) (.cons (by decide) .nil))
  obtain ⟨hback, hunique⟩ := written_set_read_back
  obtain ⟨hlength, hpieces⟩ := hback _ _ (List.cons_ne_nil _ _) hread
  refine ⟨hread, by decide +kernel, hlength, hpieces, ?_⟩
  intro t ht
  exact (hunique _ _ _ _ (List.cons_ne_nil _ _) (List.cons_ne_nil _ _) ht hread).mp

end WindowSet

end Timetable
