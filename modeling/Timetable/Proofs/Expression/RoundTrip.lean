import Timetable.Proofs.Expression.Meaning

/-!
The written form of a window as an expression. Main statement: the written form of a window is read
as the window whose times are cut to whole seconds, and it is rejected when nothing is left of the
span. So a window that comes from a text is read back from its written form.
-/
namespace Timetable

namespace TimeOfDay

theorem wholeSeconds_eq_self_iff {t : TimeOfDay} : t.wholeSeconds = t ↔ t.microsecond = 0 := by
  constructor
  · intro h
    have hticks : t.ticks / 1000000 * 1000000 = t.ticks := congrArg ticks h
    simp only [microsecond]
    omega
  · intro h
    simp only [microsecond] at h
    apply ext_ticks
    simp only [wholeSeconds]
    omega

theorem wholeSeconds_le {s t : TimeOfDay} (h : s < t) : s.wholeSeconds ≤ t.wholeSeconds := by
  rw [lt_def] at h
  rw [le_def]
  simp only [wholeSeconds]
  omega

/-- Times that are in order keep their order or become one time when they are cut. -/
theorem not_wholeSeconds_lt_iff {s t : TimeOfDay} (h : s < t) :
    ¬s.wholeSeconds < t.wholeSeconds ↔ s.wholeSeconds = t.wholeSeconds := by
  have hle := le_def.mp (wholeSeconds_le h)
  constructor
  · intro hnot
    apply ext_ticks
    rw [lt_def] at hnot
    omega
  · intro heq hlt
    rw [heq, lt_def] at hlt
    omega

theorem microsecond_of_written {cs : List Char} {t : TimeOfDay} (h : Written cs t) :
    t.microsecond = 0 := by
  cases h with
  | minutes hwidth ht => exact (views_of_ofClock? ht).2.2.2
  | seconds hwidth ht => exact (views_of_ofClock? ht).2.2.2

end TimeOfDay

namespace Tokens

/-- The tokens in the written form of a window. -/
def ofWindow (w : Window) : Tokens where
  weekday := w.weekday.map Weekday.capitalName
  start := w.span.map (·.start.clockText)
  stop := w.span.map (·.stop.clockText)

theorem laidIn_ofWindow (w : Window) : (ofWindow w).LaidIn w.text := by
  have hnil : Text.allBlank [] = true := rfl
  have hblank : Text.allBlank [' '] = true := rfl
  have hpair : ∀ s : Span, PairText (some s.start.clockText) (some s.stop.clockText)
      (s.start.clockText ++ [] ++ '-' :: [] ++ s.stop.clockText) :=
    fun s => .present hnil hnil
  rcases w with ⟨_ | d, _ | s⟩
  · exact LaidIn.intro (t := ofWindow ⟨none, none⟩) hnil hnil hnil .absent
  · have hlaid := LaidIn.intro (t := ofWindow ⟨none, some s⟩) hnil hnil hnil (hpair s)
    simpa [ofWindow, Window.text] using hlaid
  · have hlaid := LaidIn.intro (t := ofWindow ⟨some d, none⟩) hnil hnil hnil .absent
    simpa [ofWindow, Window.text] using hlaid
  · have hlaid := LaidIn.intro (t := ofWindow ⟨some d, some s⟩) hnil hblank hnil (hpair s)
    simpa [ofWindow, Window.text] using hlaid

theorem denotes_ofWindow (w : Window) :
    (ofWindow w).Denotes w.weekday (w.span.map (·.start.wholeSeconds))
      (w.span.map (·.stop.wholeSeconds)) := by
  rcases w with ⟨weekday, span⟩
  refine ⟨?_, ?_, ?_⟩
  · cases weekday with
    | none => exact .none
    | some d => exact .some d.isName_capitalName
  · cases span with
    | none => exact .none
    | some s => exact .some s.start.written_clockText
  · cases span with
    | none => exact .none
    | some s => exact .some s.stop.written_clockText

end Tokens

namespace Expression

/-- The written form of a window is read as its fields, the times cut to whole seconds. -/
theorem read_render {w : Window} (h : w ≠ .empty) :
    read w.render = judge w.weekday (w.span.map (·.start.wholeSeconds))
      (w.span.map (·.stop.wholeSeconds)) := by
  have hlaid : (Tokens.ofWindow w).LaidIn w.render.toList := by
    rw [Window.render, String.toList_ofList]
    exact Tokens.laidIn_ofWindow w
  apply read_eq_judge hlaid (Tokens.denotes_ofWindow w)
  simpa using isSome_of_ne_empty h

theorem read_render_of_not_hasTimes {w : Window} (h : w ≠ .empty) (hspan : w.span = none) :
    read w.render = .accepted w := by
  rw [read_render h, judge_eq_accepted_iff, hspan]
  exact ⟨h, rfl, rfl, rfl⟩

theorem read_render_of_span {w : Window} {s : Span} (hspan : w.span = some s) :
    read w.render =
      if h : s.start.wholeSeconds < s.stop.wholeSeconds then
        .accepted ⟨w.weekday, some ⟨s.start.wholeSeconds, s.stop.wholeSeconds, h⟩⟩
      else .rejected .order := by
  have hne : w ≠ .empty := by
    rintro rfl
    cases hspan
  rw [read_render hne, hspan]
  exact judge_pair w.weekday s.start.wholeSeconds s.stop.wholeSeconds

theorem microsecond_of_accepted {text : String} {w : Window} {s : Span}
    (h : read text = .accepted w) (hspan : w.span = some s) :
    s.start.microsecond = 0 ∧ s.stop.microsecond = 0 := by
  obtain ⟨-, t, -, hspells⟩ := read_eq_accepted_iff.mp h
  have hstart : w.span.map (·.start) = some s.start := by rw [hspan, Option.map_some]
  have hstop : w.span.map (·.stop) = some s.stop := by rw [hspan, Option.map_some]
  obtain ⟨start, -, hwritten⟩ := Tokens.exists_token hspells.start hstart
  obtain ⟨stop, -, hwritten'⟩ := Tokens.exists_token hspells.stop hstop
  exact ⟨TimeOfDay.microsecond_of_written hwritten, TimeOfDay.microsecond_of_written hwritten'⟩

theorem cut_eq_self_iff {w : Window} {s : Span} (hspan : w.span = some s)
    (h : s.start.wholeSeconds < s.stop.wholeSeconds) :
    (⟨w.weekday, some ⟨s.start.wholeSeconds, s.stop.wholeSeconds, h⟩⟩ : Window) = w ↔
      s.start.microsecond = 0 ∧ s.stop.microsecond = 0 := by
  rcases w with ⟨weekday, span⟩
  rcases s with ⟨start, stop, hlt⟩
  have hspan' : span = some ⟨start, stop, hlt⟩ := hspan
  subst hspan'
  rw [← TimeOfDay.wholeSeconds_eq_self_iff, ← TimeOfDay.wholeSeconds_eq_self_iff]
  simp

theorem read_render_of_accepted {text : String} {w : Window} (h : read text = .accepted w) :
    read w.render = .accepted w := by
  cases hspan : w.span with
  | none => exact read_render_of_not_hasTimes (read_eq_accepted_iff.mp h).1 hspan
  | some s =>
      have hzero := microsecond_of_accepted h hspan
      have hlt : s.start.wholeSeconds < s.stop.wholeSeconds := by
        rw [TimeOfDay.wholeSeconds_eq_self_iff.mpr hzero.1,
          TimeOfDay.wholeSeconds_eq_self_iff.mpr hzero.2]
        exact s.start_lt_stop
      rw [read_render_of_span hspan, dif_pos hlt, (cut_eq_self_iff hspan hlt).mpr hzero]

/-- The written form of a window is read back with its times cut to whole seconds. It is rejected
when both times are cut to one, and a window that comes from a text is read back as it is. -/
theorem read_render_wholeSeconds :
    (∀ w : Window, w ≠ .empty →
      (w.span = none → read w.render = .accepted w) ∧
      ∀ s, w.span = some s →
        (∀ h : s.start.wholeSeconds < s.stop.wholeSeconds,
          read w.render =
            .accepted ⟨w.weekday, some ⟨s.start.wholeSeconds, s.stop.wholeSeconds, h⟩⟩ ∧
          (read w.render = .accepted w ↔ s.start.microsecond = 0 ∧ s.stop.microsecond = 0)) ∧
        (read w.render = .rejected .order ↔ s.start.wholeSeconds = s.stop.wholeSeconds)) ∧
      ∀ text w, read text = .accepted w →
        read w.render = .accepted w ∧ ∀ v, read w.render = .accepted v → v.render = w.render := by
  constructor
  · intro w hne
    refine ⟨read_render_of_not_hasTimes hne, ?_⟩
    intro s hspan
    constructor
    · intro h
      rw [read_render_of_span hspan, dif_pos h]
      refine ⟨rfl, ?_⟩
      rw [Reading.accepted.injEq]
      exact cut_eq_self_iff hspan h
    · rw [read_render_of_span hspan, ← TimeOfDay.not_wholeSeconds_lt_iff s.start_lt_stop]
      split
      · next h => simp [h]
      · next h => simp [h]
  · intro text w haccepted
    have hread := read_render_of_accepted haccepted
    refine ⟨hread, ?_⟩
    intro v hv
    rw [hread, Reading.accepted.injEq] at hv
    rw [hv]

/-- A start that is cut, a span that is lost, and a text that is read back. -/
theorem read_render_half_second :
    read (Window.render ⟨some .tuesday, some ⟨⟨32400500000, by decide⟩, ⟨37800000000, by decide⟩,
        by decide⟩⟩) =
      .accepted ⟨some .tuesday, some ⟨⟨32400000000, by decide⟩, ⟨37800000000, by decide⟩,
        by decide⟩⟩ ∧
    read (Window.render ⟨none, some ⟨⟨32400500000, by decide⟩, ⟨32400600000, by decide⟩,
      by decide⟩⟩) = .rejected .order ∧
    read (Window.render ⟨some .sunday, none⟩) = .accepted ⟨some .sunday, none⟩ := by
  obtain ⟨hrender, htext⟩ := read_render_wholeSeconds
  refine ⟨?_, ?_, ?_⟩
  · have hspan := (hrender ⟨some .tuesday, some ⟨⟨32400500000, by decide⟩,
      ⟨37800000000, by decide⟩, by decide⟩⟩ (by decide)).2 _ rfl
    exact (hspan.1 (by decide)).1
  · have hspan := (hrender ⟨none, some ⟨⟨32400500000, by decide⟩, ⟨32400600000, by decide⟩,
      by decide⟩⟩ (by decide)).2 _ rfl
    exact hspan.2.mpr (by decide)
  · exact (htext "Sun" ⟨some .sunday, none⟩ (by decide)).1

end Expression

end Timetable
