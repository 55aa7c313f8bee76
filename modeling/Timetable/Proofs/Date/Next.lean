import Timetable.Proofs.Date.Ordinal

/-!
Days that follow each other in the calendar. Main statements: the ordinal and the weekday of a date
go on by one from each day to the next, over the ends of months and years and over leap days.
-/
namespace Timetable

theorem one_le_daysInMonth (year month : Nat) : 1 ≤ daysInMonth year month := by
  unfold daysInMonth
  split
  · split <;> decide
  all_goals decide

theorem Weekday.ofCount_congr {m n : Nat} (h : m % 7 = n % 7) : ofCount m = ofCount n := by
  apply index_injective
  rw [index_ofCount, index_ofCount, h]

theorem Weekday.ofCount_index (d : Weekday) : ofCount d.index = d := by
  cases d <;> rfl

namespace Date

variable {d e : Date}

/-- The day after a date: the next of the month, else the first of the next month, else the first of
the next year. -/
def next? (d : Date) : Option Date :=
  if d.day < daysInMonth d.year d.month then make? d.year d.month (d.day + 1)
  else if d.month < 12 then make? d.year (d.month + 1) 1
  else make? (d.year + 1) 1 1

/-- The day that many days after a date. -/
def later? (d : Date) : Nat → Option Date
  | 0 => some d
  | n + 1 => d.next?.bind fun c => c.later? n

theorem ordinal_pos (d : Date) : 1 ≤ d.ordinal := by
  have hday := d.day_range.1
  rw [ordinal]
  omega

theorem ordinal_injective (h : d.ordinal = e.ordinal) : d = e := by
  have hd : ofOrdinal? e.ordinal = some d := ofOrdinal?_eq_some_iff.mpr h
  have he : ofOrdinal? e.ordinal = some e := ofOrdinal?_eq_some_iff.mpr rfl
  exact Option.some.inj (hd.symm.trans he)

/-- The last day of the last month is the last day of the year. -/
theorem ordinal_of_last (hmonth : ¬d.month < 12) (hday : ¬d.day < daysInMonth d.year d.month) :
    d.ordinal = daysBeforeYear (d.year + 1) := by
  have htwelve : d.month = 12 := Nat.le_antisymm d.month_range.2 (Nat.le_of_not_lt hmonth)
  have hlast : d.day = daysInMonth d.year d.month :=
    Nat.le_antisymm d.day_range.2 (Nat.le_of_not_lt hday)
  have hend := daysBeforeMonth_succ d.year d.month_range.1
  rw [htwelve, daysBeforeMonth_thirteen] at hend
  rw [daysBeforeYear_succ d.year_range.1, hend, ordinal, hlast, htwelve, Nat.add_assoc]

theorem ordinal_le (d : Date) : d.ordinal ≤ daysBeforeYear (d.year + 1) := by
  have hday := d.yearDay_le
  rw [daysBeforeYear_succ d.year_range.1, ordinal]
  omega

theorem ordinal_of_next? (h : d.next? = some e) : e.ordinal = d.ordinal + 1 := by
  rw [next?] at h
  split at h
  · obtain ⟨hyear, hmonth, hday⟩ := make?_eq_some_iff.mp h
    rw [ordinal, ordinal, hyear, hmonth, hday]
    rfl
  · next hlast =>
    split at h
    · obtain ⟨hyear, hmonth, hday⟩ := make?_eq_some_iff.mp h
      have hend := daysBeforeMonth_succ d.year d.month_range.1
      have hle := d.day_range.2
      rw [ordinal, ordinal, hyear, hmonth, hday, hend]
      omega
    · next hend =>
      obtain ⟨hyear, hmonth, hday⟩ := make?_eq_some_iff.mp h
      rw [ordinal_of_last hend hlast, ordinal, hyear, hmonth, hday]
      rfl

theorem exists_next?_of_lt (h : d.ordinal < e.ordinal) : ∃ c, d.next? = some c := by
  have hmonth := d.month_range
  have hyear := d.year_range
  have hmake {year month day : Nat} (hy : 1 ≤ year ∧ year ≤ 9999) (hm : 1 ≤ month ∧ month ≤ 12)
      (hd : 1 ≤ day ∧ day ≤ daysInMonth year month) : ∃ c, make? year month day = some c :=
    ⟨⟨year, month, day, hy, hm, hd⟩, make?_eq_some_iff.mpr ⟨rfl, rfl, rfl⟩⟩
  rw [next?]
  split
  · exact hmake hyear hmonth ⟨by omega, by omega⟩
  · next hlast =>
    split
    · exact hmake hyear ⟨by omega, by omega⟩ ⟨Nat.le_refl 1, one_le_daysInMonth _ _⟩
    · next hend =>
      -- A later date is in a later year, and years do not go beyond 9999.
      have hyears : d.year < e.year := by
        refine Nat.lt_of_not_le fun hle => ?_
        have hmono : daysBeforeYear (e.year + 1) ≤ daysBeforeYear (d.year + 1) :=
          start_mono (fun _ => daysBeforeYear_succ) (by omega) (by omega)
        have hbound := e.ordinal_le
        rw [ordinal_of_last hend hlast] at h
        omega
      have hlimit := e.year_range.2
      exact hmake ⟨by omega, by omega⟩ (by decide) ⟨Nat.le_refl 1, one_le_daysInMonth _ _⟩

/-- The days after a date are counted by their ordinals. -/
theorem later?_eq_some_iff {n : Nat} : d.later? n = some e ↔ e.ordinal = d.ordinal + n := by
  induction n generalizing d with
  | zero =>
      rw [later?, Option.some.injEq, Nat.add_zero]
      constructor
      · rintro rfl
        rfl
      · intro h
        exact ordinal_injective h.symm
  | succ n ih =>
      rw [later?, Option.bind_eq_some_iff]
      constructor
      · rintro ⟨c, hnext, hlater⟩
        rw [ih.mp hlater, ordinal_of_next? hnext]
        omega
      · intro h
        obtain ⟨c, hnext⟩ := exists_next?_of_lt (show d.ordinal < e.ordinal by omega)
        have hc := ordinal_of_next? hnext
        exact ⟨c, hnext, ih.mpr (by omega)⟩

/-- The weekday goes on by one each day. -/
theorem weekday_of_later? {n : Nat} (h : d.later? n = some e) :
    e.weekday = Weekday.ofCount (d.weekday.index + n) := by
  have hpos := d.ordinal_pos
  rw [weekday, weekday, Weekday.index_ofCount, later?_eq_some_iff.mp h]
  apply Weekday.ofCount_congr
  omega

end Date

end Timetable
