import Timetable.Proofs.Except
import Timetable.WindowSet

/-!
Windows that follow each other. Main statement: the windows between the neighbours in an increasing row of
times tile the window from the first of the times to the last.
-/
namespace Timetable

/-- A span is cut into two parts that have no time in common. -/
theorem Span.count_contains_cut {a b c : TimeOfDay} (hab : a < b) (hbc : b < c) (hac : a < c)
    (t : TimeOfDay) :
    (if Span.contains ⟨a, c, hac⟩ t then 1 else 0) =
      (if Span.contains ⟨a, b, hab⟩ t then 1 else 0) +
        (if Span.contains ⟨b, c, hbc⟩ t then 1 else 0) := by
  have hab' := TimeOfDay.lt_def.mp hab
  have hbc' := TimeOfDay.lt_def.mp hbc
  simp only [Span.contains_iff, TimeOfDay.le_def, TimeOfDay.lt_def]
  -- The time of the cut belongs to the later part.
  by_cases hcut : t.ticks < b.ticks
  · have hbefore : t.ticks < c.ticks := by omega
    have hlater : ¬b.ticks ≤ t.ticks := by omega
    simp [hcut, hbefore, hlater]
  · have hafter : a.ticks ≤ t.ticks := by omega
    have hlater : b.ticks ≤ t.ticks := by omega
    simp [hcut, hafter, hlater]

namespace Window

/-- The windows of a weekday between each two neighbours in a row of times. -/
def between (day : Option Weekday) : List TimeOfDay → Except WindowError (List Window)
  | start :: stop :: ts => do
      let w ← make day (some start) (some stop)
      let ws ← between day (stop :: ts)
      return w :: ws
  | _ => .ok []

variable {day : Option Weekday} {start stop : TimeOfDay} {ts : List TimeOfDay}

theorem make_of_lt (day : Option Weekday) (h : start < stop) :
    make day (some start) (some stop) = .ok ⟨day, some ⟨start, stop, h⟩⟩ :=
  dif_pos h

theorem between_of_lt (h : start < stop) :
    between day (start :: stop :: ts) =
      (between day (stop :: ts)).map (⟨day, some ⟨start, stop, h⟩⟩ :: ·) := by
  rw [between, make_of_lt day h]
  cases between day (stop :: ts) <;> rfl

theorem contains_of_span (day : Option Weekday) (s : Span) (i : Instant) :
    (⟨day, some s⟩ : Window).contains i = (day.all (· == i.weekday) && s.contains i.time) := by
  simp [contains, isOpen, isEmpty]

theorem count_contains_cut (day : Option Weekday) {a b c : TimeOfDay} (hab : a < b) (hbc : b < c)
    (hac : a < c) (i : Instant) :
    (if contains ⟨day, some ⟨a, c, hac⟩⟩ i then 1 else 0) =
      (if contains ⟨day, some ⟨a, b, hab⟩⟩ i then 1 else 0) +
        (if contains ⟨day, some ⟨b, c, hbc⟩⟩ i then 1 else 0) := by
  simp only [contains_of_span]
  cases day.all (· == i.weekday) with
  | false => rfl
  | true =>
      simp only [Bool.true_and]
      exact Span.count_contains_cut hab hbc hac i.time

theorem lt_getLast (h : (start :: stop :: ts).Pairwise (· < ·)) :
    start < (stop :: ts).getLast (List.cons_ne_nil stop ts) :=
  (List.pairwise_cons.mp h).1 _ (List.getLast_mem _)

/-- The windows between the times of an increasing row can be made, and an instant is one of as many of
them as of the one window of the whole row. -/
theorem exists_between (day : Option Weekday) (h : (start :: stop :: ts).Pairwise (· < ·)) :
    ∃ ws, between day (start :: stop :: ts) = .ok ws ∧ ws.length = ts.length + 1 ∧
      ∀ i : Instant, ws.countP (·.contains i) =
        if contains ⟨day, some ⟨start, _, lt_getLast h⟩⟩ i then 1 else 0 := by
  induction ts generalizing start stop with
  | nil =>
      refine ⟨_, between_of_lt (lt_getLast h), rfl, ?_⟩
      intro i
      exact List.countP_singleton
  | cons next ts ih =>
      obtain ⟨hfirst, hrest⟩ := List.pairwise_cons.mp h
      have hlt : start < stop := hfirst stop List.mem_cons_self
      obtain ⟨ws, hws, hlength, hcount⟩ := ih hrest
      refine ⟨⟨day, some ⟨start, stop, hlt⟩⟩ :: ws, ?_, ?_, ?_⟩
      · rw [between_of_lt hlt, hws]
        rfl
      · rw [List.length_cons, List.length_cons, hlength]
      · intro i
        have hall := lt_getLast h
        rw [List.countP_cons, hcount i, Nat.add_comm]
        exact (count_contains_cut day hlt (lt_getLast hrest) hall i).symm

end Window

theorem WindowSet.contains_iff_countP_pos (s : WindowSet) (i : Instant) :
    s.contains i = true ↔ 0 < s.windows.countP (·.contains i) := by
  rw [s.contains_iff, List.countP_pos_iff]

/-- Half-open windows tile. The windows of a weekday, or of every day, between the neighbours in an increasing
row of two times or more can be made, as can the window from the first of the times to the last. An instant
of the window is one of exactly one of the pieces, and any other instant is one of none. So the set of the
pieces is open when the window is, and selects the same of any instants. -/
theorem windows_tile (day : Option Weekday) {start stop : TimeOfDay} {ts : List TimeOfDay}
    (h : (start :: stop :: ts).Pairwise (· < ·)) :
    ∃ whole pieces,
      Window.make day (some start) (some ((stop :: ts).getLast (List.cons_ne_nil stop ts))) =
        .ok whole ∧
      Window.between day (start :: stop :: ts) = .ok pieces ∧ pieces.length = ts.length + 1 ∧
      (∀ i : Instant,
        (whole.contains i = true → pieces.countP (·.contains i) = 1) ∧
        (whole.contains i = false → ∀ w ∈ pieces, w.contains i = false) ∧
        WindowSet.contains ⟨pieces⟩ i = whole.contains i) ∧
      ∀ is, WindowSet.select ⟨pieces⟩ is = whole.select is := by
  obtain ⟨pieces, hpieces, hlength, hcount⟩ := Window.exists_between day h
  have hsame : ∀ i, WindowSet.contains ⟨pieces⟩ i =
      Window.contains ⟨day, some ⟨start, _, Window.lt_getLast h⟩⟩ i := by
    intro i
    rw [Bool.eq_iff_iff, WindowSet.contains_iff_countP_pos, hcount i]
    split <;> simp [*]
  refine ⟨_, pieces, Window.make_of_lt day (Window.lt_getLast h), hpieces, hlength, ?_, ?_⟩
  · intro i
    refine ⟨?_, ?_, hsame i⟩
    · intro hwhole
      rw [hcount i, if_pos hwhole]
    · intro hwhole w hw
      have hnone := hcount i
      rw [hwhole, if_neg Bool.false_ne_true, List.countP_eq_zero] at hnone
      exact Bool.eq_false_iff.mpr (hnone w hw)
  · intro is
    exact List.filter_congr fun i _ => hsame i

/-- Times of a morning: eight, the microsecond after it, and eleven. -/
def morning : List TimeOfDay :=
  [⟨28800000000, by decide⟩, ⟨28800000001, by decide⟩, ⟨39600000000, by decide⟩]

/-- An instant of a Tuesday, given by the microseconds since midnight. -/
def tuesdayAt (ticks : Nat) (h : ticks < ticksPerDay) : Instant :=
  ⟨⟨2026, 6, 16, by decide, by decide, by decide⟩, ⟨ticks, h⟩, none⟩

/-- Of a morning in two pieces eight is in one, the last microsecond before eleven in one, and eleven in none. -/
theorem tuesday_morning_tiles :
    morning.Pairwise (· < ·) ∧ ∃ pieces, Window.between (some .tuesday) morning = .ok pieces ∧
      pieces.length = 2 ∧
      pieces.countP (·.contains (tuesdayAt 28800000000 (by decide))) = 1 ∧
      WindowSet.contains ⟨pieces⟩ (tuesdayAt 39599999999 (by decide)) = true ∧
      ∀ w ∈ pieces, w.contains (tuesdayAt 39600000000 (by decide)) = false := by
  have hmorning : morning.Pairwise (· < ·) := by decide
  obtain ⟨whole, pieces, hwhole, hpieces, hlength, hcontains, -⟩ :=
    windows_tile (some .tuesday) hmorning
  obtain rfl : whole = ⟨some .tuesday,
      some ⟨⟨28800000000, by decide⟩, ⟨39600000000, by decide⟩, by decide⟩⟩ :=
    Except.ok.inj (hwhole.symm.trans (Window.make_of_lt (some .tuesday) (by decide)))
  refine ⟨hmorning, pieces, hpieces, hlength, ?_, ?_, ?_⟩
  · exact (hcontains _).1 (by decide)
  · rw [(hcontains _).2.2]
    decide
  · exact (hcontains _).2.1 (by decide)

end Timetable
