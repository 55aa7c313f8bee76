import Mathlib.Data.List.Nodup
import Timetable.Proofs.Date.Next
import Timetable.WindowSet

/-!
How windows come back. Main statement: a set of windows is open alike at one time of day whole weeks
apart, and in seven days on end a window of a weekday is open on one of them or on none, a window of
times alone on all of them or on none.
-/
namespace Timetable

namespace Weekday

theorem nodup_week (n : Nat) : ((List.range 7).map fun k => ofCount (n + k)).Nodup := by
  refine List.nodup_range.map_on ?_
  intro k hk m hm h
  have hindex := congrArg index h
  rw [index_ofCount, index_ofCount] at hindex
  rw [List.mem_range] at hk hm
  omega

theorem mem_week (n : Nat) (d : Weekday) : d ∈ (List.range 7).map fun k => ofCount (n + k) := by
  have hlt := d.index_lt
  refine List.mem_map.mpr ⟨(d.index + (7 - n % 7)) % 7, List.mem_range.mpr (by omega), ?_⟩
  apply index_injective
  rw [index_ofCount]
  omega

/-- Each weekday comes once in seven days. -/
theorem count_week (n : Nat) (d : Weekday) :
    ((List.range 7).map fun k => ofCount (n + k)).count d = 1 :=
  List.count_eq_one_of_mem (nodup_week n) (mem_week n d)

end Weekday

/-- Dates with a number of whole weeks between them. -/
def WeeksApart (d e : Date) : Prop :=
  ∃ n, d.later? (7 * n) = some e ∨ e.later? (7 * n) = some d

theorem weekday_eq_of_later? {d e : Date} {n : Nat} (h : d.later? (7 * n) = some e) :
    d.weekday = e.weekday := by
  rw [Date.weekday_of_later? h, ← Weekday.ofCount_index d.weekday]
  apply Weekday.ofCount_congr
  rw [Weekday.ofCount_index, Nat.add_mul_mod_self_left]

theorem WeeksApart.weekday_eq {d e : Date} (h : WeeksApart d e) : d.weekday = e.weekday := by
  obtain ⟨n, h | h⟩ := h
  · exact weekday_eq_of_later? h
  · exact (weekday_eq_of_later? h).symm

/-- Instants at one time of day on seven days that follow each other. -/
structure IsWeekAt (t : TimeOfDay) (is : List Instant) : Prop where
  length_eq : is.length = 7
  time_eq : ∀ i ∈ is, i.time = t
  follows : is.IsChain fun i j => i.date.next? = some j.date

theorem weekdays_of_isChain {i : Instant} {is : List Instant}
    (h : (i :: is).IsChain fun i j => i.date.next? = some j.date) :
    (i :: is).map Instant.weekday =
      (List.range (is.length + 1)).map fun k => Weekday.ofCount (i.weekday.index + k) := by
  induction is generalizing i with
  | nil => simp [Weekday.ofCount_index]
  | cons j is ih =>
      obtain ⟨hnext, hrest⟩ := List.isChain_cons_cons.mp h
      have hday : j.weekday = Weekday.ofCount (i.weekday.index + 1) :=
        Date.weekday_of_later? (n := 1) (by rw [Date.later?, hnext]; rfl)
      rw [List.map_cons, ih hrest, List.length_cons, List.range_succ_eq_map (n := is.length + 1),
        List.map_cons, List.map_map]
      refine List.cons_eq_cons.mpr ⟨i.weekday.ofCount_index.symm, ?_⟩
      refine List.map_congr_left fun k _ => Weekday.ofCount_congr ?_
      rw [hday, Weekday.index_ofCount, Nat.succ_eq_add_one]
      omega

/-- A time of day is within what a window asks for. -/
def Window.AllowsTime (w : Window) (t : TimeOfDay) : Prop :=
  ∀ s, w.span = some s → s.start ≤ t ∧ t < s.stop

namespace IsWeekAt

variable {t : TimeOfDay} {is : List Instant} {w : Window} {d : Weekday}

theorem count_weekday (h : IsWeekAt t is) (d : Weekday) : (is.map Instant.weekday).count d = 1 := by
  cases is with
  | nil => cases h.length_eq
  | cons i is =>
      rw [weekdays_of_isChain h.follows, ← List.length_cons (a := i), h.length_eq]
      exact Weekday.count_week _ d

theorem contains_iff (h : IsWeekAt t is) {i : Instant} (hi : i ∈ is) :
    w.contains i = true ↔
      w ≠ .empty ∧ (∀ d, w.weekday = some d → d = i.weekday) ∧ w.AllowsTime t := by
  rw [Window.contains, Window.isOpen_iff, h.time_eq i hi]
  rfl

theorem countP_of_allowsTime (h : IsWeekAt t is) (hday : w.weekday = some d)
    (htime : w.AllowsTime t) : is.countP w.contains = 1 := by
  have hne : w ≠ .empty := by
    rintro rfl
    cases hday
  have hcontains : ∀ i ∈ is, w.contains i = true ↔ (i.weekday == d) = true := by
    intro i hi
    rw [h.contains_iff hi, beq_iff_eq]
    constructor
    · rintro ⟨-, hsame, -⟩
      exact (hsame d hday).symm
    · rintro rfl
      refine ⟨hne, fun d hd => ?_, htime⟩
      exact Option.some.inj (hd.symm.trans hday)
  rw [List.countP_congr hcontains, ← h.count_weekday d, List.count_eq_countP, List.countP_map]
  rfl

theorem countP_of_not_allowsTime (h : IsWeekAt t is) (htime : ¬w.AllowsTime t) :
    is.countP w.contains = 0 := by
  rw [List.countP_eq_zero]
  intro i hi hcontains
  exact htime ((h.contains_iff hi).mp hcontains).2.2

theorem contains_eq (h : IsWeekAt t is) {s : Span} (hday : w.weekday = none)
    (hspan : w.span = some s) {i : Instant} (hi : i ∈ is) : w.contains i = s.contains t := by
  rw [Bool.eq_iff_iff, h.contains_iff hi, s.contains_iff]
  constructor
  · rintro ⟨-, -, htime⟩
    exact htime s hspan
  · intro htime
    refine ⟨?_, by simp [hday], fun s' hs' => ?_⟩
    · rintro rfl
      cases hspan
    · rwa [Option.some.inj (hs'.symm.trans hspan)]

end IsWeekAt

theorem WindowSet.contains_of_weekday_eq {i j : Instant} (hday : i.weekday = j.weekday)
    (htime : i.time = j.time) (s : WindowSet) : s.contains i = s.contains j := by
  simp only [contains, Window.contains, hday, htime]

/-- Windows come back every week and look at the wall clock alone. A set of windows is open alike at
one time of day on dates that are whole weeks apart, whatever the distances from universal time. In
seven days on end a window of a weekday is open at a time of day on exactly one of them if it allows
the time, and on none of them if it does not. A window of times alone is open on all of them or on
none. -/
theorem windows_recur_weekly :
    (∀ (s : WindowSet) (i j : Instant), i.time = j.time → WeeksApart i.date j.date →
      s.contains i = s.contains j) ∧
    ∀ (t : TimeOfDay) (is : List Instant), IsWeekAt t is → ∀ w : Window,
      (∀ d, w.weekday = some d →
        (w.AllowsTime t → is.countP w.contains = 1) ∧
        (¬w.AllowsTime t → is.countP w.contains = 0)) ∧
      ∀ s, w.weekday = none → w.span = some s →
        (s.start ≤ t ∧ t < s.stop → ∀ i ∈ is, w.contains i = true) ∧
        (¬(s.start ≤ t ∧ t < s.stop) → ∀ i ∈ is, w.contains i = false) := by
  constructor
  · intro s i j htime hweeks
    exact s.contains_of_weekday_eq hweeks.weekday_eq htime
  · intro t is hweek w
    refine ⟨fun d hday => ⟨hweek.countP_of_allowsTime hday, hweek.countP_of_not_allowsTime⟩, ?_⟩
    intro s hday hspan
    rw [← s.contains_iff, Bool.not_eq_true]
    constructor
    · intro htime i hi
      rw [hweek.contains_eq hday hspan hi, htime]
    · intro htime i hi
      rw [hweek.contains_eq hday hspan hi, htime]

/-- Half past nine in the morning. -/
def halfPastNine : TimeOfDay := ⟨34200000000, by decide⟩

/-- The mornings of a week in which a leap year has its leap day. -/
def leapWeek : List Instant :=
  [⟨⟨2020, 2, 24, by decide, by decide, by decide⟩, halfPastNine, none⟩,
    ⟨⟨2020, 2, 25, by decide, by decide, by decide⟩, halfPastNine, some .utc⟩,
    ⟨⟨2020, 2, 26, by decide, by decide, by decide⟩, halfPastNine, none⟩,
    ⟨⟨2020, 2, 27, by decide, by decide, by decide⟩, halfPastNine, some ⟨3600, false⟩⟩,
    ⟨⟨2020, 2, 28, by decide, by decide, by decide⟩, halfPastNine, none⟩,
    ⟨⟨2020, 2, 29, by decide, by decide, by decide⟩, halfPastNine, none⟩,
    ⟨⟨2020, 3, 1, by decide, by decide, by decide⟩, halfPastNine, some ⟨-18000, false⟩⟩]

/-- A Saturday and the leap day that comes fifty-two weeks after it, and the week of that day. -/
theorem leap_day_recurs :
    (∀ s : WindowSet,
      s.contains ⟨⟨2019, 3, 2, by decide, by decide, by decide⟩, halfPastNine, some .utc⟩ =
        s.contains ⟨⟨2020, 2, 29, by decide, by decide, by decide⟩, halfPastNine, none⟩) ∧
    IsWeekAt halfPastNine leapWeek ∧
      leapWeek.countP (Window.contains ⟨some .saturday,
        some ⟨⟨32400000000, by decide⟩, ⟨61200000000, by decide⟩, by decide⟩⟩) = 1 := by
  have hweek : IsWeekAt halfPastNine leapWeek := ⟨rfl, by decide, by decide⟩
  refine ⟨fun s => ?_, hweek, ?_⟩
  · exact windows_recur_weekly.1 s _ _ rfl ⟨52, Or.inl (Date.later?_eq_some_iff.mpr rfl)⟩
  · refine ((windows_recur_weekly.2 _ _ hweek _).1 .saturday rfl).1 ?_
    rintro s ⟨⟩
    decide

end Timetable
