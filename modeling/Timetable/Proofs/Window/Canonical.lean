import Timetable.Instant

/-!
When one window covers another. Main statements: a window covers another exactly when each of its
fields does, so windows that are open at the same instants are equal.
-/
namespace Timetable

theorem Date.exists_weekday_eq (d : Weekday) : ∃ date : Date, date.weekday = d := by
  -- The first seven days of the year 1 run from Monday to Sunday.
  have hlt := d.index_lt
  have hday : 1 ≤ d.index + 1 ∧ d.index + 1 ≤ daysInMonth 1 1 := by
    simp only [daysInMonth]
    omega
  refine ⟨⟨1, 1, d.index + 1, by decide, by decide, hday⟩, ?_⟩
  apply Weekday.index_injective
  rw [Date.weekday, Weekday.index_ofCount]
  simp only [Date.ordinal, daysBeforeYear, daysBeforeMonth]
  omega

theorem Weekday.exists_ne (d : Weekday) : ∃ e : Weekday, e ≠ d := by
  cases d with
  | monday => exact ⟨.tuesday, by decide⟩
  | _ => exact ⟨.monday, by decide⟩

/-- The last time of a day. -/
def TimeOfDay.lastTick : TimeOfDay :=
  ⟨ticksPerDay - 1, by decide⟩

namespace Span

/-- The last time in a span. -/
def lastTick (s : Span) : TimeOfDay :=
  ⟨s.stop.ticks - 1, by have h := s.stop.lt_day; omega⟩

theorem contains_start (s : Span) : s.start ≤ s.start ∧ s.start < s.stop :=
  ⟨Nat.le_refl _, s.start_lt_stop⟩

theorem contains_lastTick (s : Span) : s.start ≤ s.lastTick ∧ s.lastTick < s.stop := by
  have h := TimeOfDay.lt_def.mp s.start_lt_stop
  rw [TimeOfDay.le_def, TimeOfDay.lt_def]
  simp only [lastTick]
  omega

/-- No span reaches the end of the day. -/
theorem stop_le_lastTick (s : Span) : ¬TimeOfDay.lastTick < s.stop := by
  have h := s.stop.lt_day
  rw [TimeOfDay.lt_def]
  simp only [TimeOfDay.lastTick]
  omega

theorem lastTick_lt_iff (r : Span) (t : TimeOfDay) : r.lastTick < t ↔ r.stop ≤ t := by
  have h := TimeOfDay.lt_def.mp r.start_lt_stop
  rw [TimeOfDay.lt_def, TimeOfDay.le_def]
  simp only [lastTick]
  omega

/-- Spans that lie in each other are one span. -/
theorem eq_of_le_of_le {r s : Span} (hstart : s.start ≤ r.start) (hstop : r.stop ≤ s.stop)
    (hstart' : r.start ≤ s.start) (hstop' : s.stop ≤ r.stop) : r = s := by
  rcases r with ⟨a, b, hab⟩
  rcases s with ⟨a', b', hab'⟩
  have ha : a = a' := TimeOfDay.ext_ticks (Nat.le_antisymm hstart' hstart)
  have hb : b = b' := TimeOfDay.ext_ticks (Nat.le_antisymm hstop hstop')
  subst ha hb
  rfl

end Span

namespace Window

/-- A window covers a nonempty one field by field: it asks for no other weekday, and for no smaller
part of the day. -/
structure Covers (w v : Window) : Prop where
  ne_empty : w ≠ .empty
  weekday : ∀ d, w.weekday = some d → v.weekday = some d
  span : ∀ s, w.span = some s → ∃ r, v.span = some r ∧ s.start ≤ r.start ∧ r.stop ≤ s.stop

theorem exists_weekday_of (w : Window) : ∃ d, ∀ d', w.weekday = some d' → d' = d := by
  rcases w with ⟨_ | d, span⟩
  · exact ⟨.monday, by rintro d' ⟨⟩⟩
  · exact ⟨d, by rintro d' ⟨⟩; rfl⟩

theorem exists_time_of (w : Window) :
    ∃ t, ∀ s, w.span = some s → s.start ≤ t ∧ t < s.stop := by
  rcases w with ⟨weekday, _ | s⟩
  · exact ⟨.midnight, by rintro s ⟨⟩⟩
  · exact ⟨s.start, by rintro s' ⟨⟩; exact s.contains_start⟩

section Subset

variable {v w : Window}

theorem weekday_of_isOpen (hv : v ≠ .empty)
    (h : ∀ d t, v.isOpen d t = true → w.isOpen d t = true) {d : Weekday}
    (hd : w.weekday = some d) : v.weekday = some d := by
  obtain ⟨time, htime⟩ := v.exists_time_of
  have hsame : ∀ e, (∀ d', v.weekday = some d' → d' = e) → d = e := by
    intro e he
    have hopen := h e time ((v.isOpen_iff e time).mpr ⟨hv, he, htime⟩)
    exact ((w.isOpen_iff e time).mp hopen).2.1 d hd
  cases hday : v.weekday with
  | none =>
      -- A window of no weekday is open on a day other than `d`.
      obtain ⟨e, he⟩ := d.exists_ne
      exact absurd (hsame e (by simp [hday])).symm he
  | some e => rw [hsame e (by simp [hday])]

theorem span_of_isOpen (hv : v ≠ .empty)
    (h : ∀ d t, v.isOpen d t = true → w.isOpen d t = true) {s : Span}
    (hs : w.span = some s) : ∃ r, v.span = some r ∧ s.start ≤ r.start ∧ r.stop ≤ s.stop := by
  obtain ⟨day, hday⟩ := v.exists_weekday_of
  have hmem : ∀ t, (∀ r, v.span = some r → r.start ≤ t ∧ t < r.stop) →
      s.start ≤ t ∧ t < s.stop := by
    intro t ht
    have hopen := h day t ((v.isOpen_iff day t).mpr ⟨hv, hday, ht⟩)
    exact ((w.isOpen_iff day t).mp hopen).2.2 s hs
  cases hspan : v.span with
  | none =>
      -- A window of no span is open at the end of the day.
      have hlast := hmem .lastTick (by simp [hspan])
      exact absurd hlast.2 s.stop_le_lastTick
  | some r =>
      have hfirst := hmem r.start (by simpa [hspan] using r.contains_start)
      have hlast := hmem r.lastTick (by simpa [hspan] using r.contains_lastTick)
      exact ⟨r, rfl, hfirst.1, (r.lastTick_lt_iff s.stop).mp hlast.2⟩

theorem covers_of_isOpen (hv : v ≠ .empty)
    (h : ∀ d t, v.isOpen d t = true → w.isOpen d t = true) : w.Covers v := by
  refine ⟨?_, fun d => weekday_of_isOpen hv h, fun s => span_of_isOpen hv h⟩
  obtain ⟨day, hday⟩ := v.exists_weekday_of
  obtain ⟨time, htime⟩ := v.exists_time_of
  have hopen := h day time ((v.isOpen_iff day time).mpr ⟨hv, hday, htime⟩)
  exact ((w.isOpen_iff day time).mp hopen).1

theorem isOpen_of_covers (h : w.Covers v) {d : Weekday} {t : TimeOfDay}
    (hopen : v.isOpen d t = true) : w.isOpen d t = true := by
  obtain ⟨-, hday, htime⟩ := (v.isOpen_iff d t).mp hopen
  refine (w.isOpen_iff d t).mpr ⟨h.ne_empty, ?_, ?_⟩
  · intro d' hd'
    exact hday d' (h.weekday d' hd')
  · intro s hs
    obtain ⟨r, hr, hstart, hstop⟩ := h.span s hs
    obtain ⟨hle, hlt⟩ := htime r hr
    exact ⟨Nat.le_trans hstart hle, Nat.lt_of_lt_of_le hlt hstop⟩

theorem isOpen_of_contains (h : ∀ i : Instant, v.contains i = true → w.contains i = true)
    (d : Weekday) (t : TimeOfDay) (hopen : v.isOpen d t = true) : w.isOpen d t = true := by
  obtain ⟨date, rfl⟩ := Date.exists_weekday_eq d
  exact h ⟨date, t, none⟩ hopen

/-- Every instant of a nonempty window is one of another window exactly when that one covers it. -/
theorem covers_iff_contains (hv : v ≠ .empty) :
    w.Covers v ↔ ∀ i : Instant, v.contains i = true → w.contains i = true := by
  constructor
  · intro h i
    exact isOpen_of_covers h
  · intro h
    exact covers_of_isOpen hv (isOpen_of_contains h)

theorem eq_of_covers (h : w.Covers v) (h' : v.Covers w) : v = w := by
  rcases v with ⟨day, span⟩
  rcases w with ⟨day', span'⟩
  have hday : day = day' := by
    apply Option.ext
    intro d
    exact ⟨h'.weekday d, h.weekday d⟩
  have hspan : span = span' := by
    cases span with
    | none =>
        cases span' with
        | none => rfl
        | some s =>
            obtain ⟨r, hr, -⟩ := h.span s rfl
            cases hr
    | some r =>
        obtain ⟨s, rfl, hstart, hstop⟩ := h'.span r rfl
        obtain ⟨r', hr', hstart', hstop'⟩ := h.span s rfl
        cases hr'
        rw [Span.eq_of_le_of_le hstart' hstop' hstart hstop]
  rw [hday, hspan]

theorem empty_contains (i : Instant) : empty.contains i = false := rfl

theorem exists_contains (h : v ≠ .empty) : ∃ i : Instant, v.contains i = true := by
  obtain ⟨day, hday⟩ := v.exists_weekday_of
  obtain ⟨time, htime⟩ := v.exists_time_of
  obtain ⟨date, rfl⟩ := Date.exists_weekday_eq day
  exact ⟨⟨date, time, none⟩, (v.isOpen_iff _ _).mpr ⟨h, hday, htime⟩⟩

theorem eq_of_contains_eq (h : ∀ i : Instant, v.contains i = w.contains i) : v = w := by
  by_cases hv : v = .empty
  · subst hv
    by_cases hw : w = .empty
    · exact hw.symm
    · obtain ⟨i, hi⟩ := exists_contains hw
      rw [← h i, empty_contains] at hi
      cases hi
  · have hcovers : w.Covers v := by
      rw [covers_iff_contains hv]
      intro i hi
      rwa [← h i]
    have hcovers' : v.Covers w := by
      rw [covers_iff_contains hcovers.ne_empty]
      intro i hi
      rwa [h i]
    exact eq_of_covers hcovers hcovers'

end Subset

/-- Two windows are equal exactly when they are open at the same instants. In particular a window
with times is told apart from each window without times. -/
theorem eq_iff_contains_eq (v w : Window) :
    (v = w ↔ ∀ i : Instant, v.contains i = w.contains i) ∧
      (v.hasTimes = false → w.hasTimes = true → ∃ i : Instant, v.contains i ≠ w.contains i) := by
  constructor
  · constructor
    · rintro rfl i
      rfl
    · exact eq_of_contains_eq
  · intro hv hw
    have hne : v ≠ w := by
      rintro rfl
      rw [hv] at hw
      cases hw
    apply Classical.not_forall.mp
    intro hsame
    exact hne (eq_of_contains_eq hsame)

/-- A whole Monday is told apart from the Monday that lacks its last microsecond. -/
theorem monday_ne_timed_monday :
    ∃ i : Instant, Window.contains ⟨some .monday, none⟩ i ≠
      Window.contains ⟨some .monday, some ⟨.midnight, .lastTick, by decide⟩⟩ i :=
  (eq_iff_contains_eq ⟨some .monday, none⟩ _).2 rfl rfl

end Window

end Timetable
