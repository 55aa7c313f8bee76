import Timetable.Date

/-!
Dates and their ordinals. Main statement: a date is found from its ordinal, and only the ordinal of a
date finds it.
-/
namespace Timetable

theorem isLeap_iff {year : Nat} :
    isLeap year = true ↔ year % 4 = 0 ∧ (year % 100 ≠ 0 ∨ year % 400 = 0) := by
  simp [isLeap]

theorem isLeap_eq_false_iff {year : Nat} :
    isLeap year = false ↔ year % 4 ≠ 0 ∨ year % 100 = 0 ∧ year % 400 ≠ 0 := by
  rw [isLeap]
  cases h : (year % 4 == 0) <;> simp_all

/-! ### Spans that follow each other -/

section Spans

-- The days before each of the spans that are numbered from one, and the days in it.
variable {s l : Nat → Nat} {m n d e : Nat}

theorem start_mono (hsucc : ∀ n, 1 ≤ n → s (n + 1) = s n + l n) (hm : 1 ≤ m) (h : m ≤ n) :
    s m ≤ s n := by
  induction h with
  | refl => exact Nat.le_refl _
  | step hmn ih =>
      rw [Nat.succ_eq_add_one, hsucc _ (Nat.le_trans hm hmn)]
      omega

/-- A day is in one span only, since the days in a span are all before the next. -/
theorem span_unique (hsucc : ∀ n, 1 ≤ n → s (n + 1) = s n + l n) (hm : 1 ≤ m) (hn : 1 ≤ n)
    (hd : 1 ≤ d ∧ d ≤ l m) (he : 1 ≤ e ∧ e ≤ l n) (h : s m + d = s n + e) : m = n ∧ d = e := by
  have hsm := hsucc m hm
  have hsn := hsucc n hn
  rcases Nat.lt_trichotomy m n with hlt | rfl | hlt
  · have hle := start_mono hsucc (by omega) (Nat.succ_le_of_lt hlt)
    rw [Nat.succ_eq_add_one] at hle
    omega
  · omega
  · have hle := start_mono hsucc (by omega) (Nat.succ_le_of_lt hlt)
    rw [Nat.succ_eq_add_one] at hle
    omega

end Spans

/-! ### Months of a year -/

theorem daysBeforeMonth_succ (year : Nat) {month : Nat} (h : 1 ≤ month) :
    daysBeforeMonth year (month + 1) = daysBeforeMonth year month + daysInMonth year month := by
  obtain ⟨m, rfl⟩ : ∃ m, month = m + 1 := ⟨month - 1, by omega⟩
  rfl

theorem daysBeforeMonth_thirteen (year : Nat) : daysBeforeMonth year 13 = daysInYear year := by
  cases h : isLeap year <;> simp [daysBeforeMonth, daysInMonth, daysInYear, h]

/-- A day of a year is in one month only. -/
theorem month_unique {year m n d e : Nat} (hm : 1 ≤ m) (hn : 1 ≤ n)
    (hd : 1 ≤ d ∧ d ≤ daysInMonth year m) (he : 1 ≤ e ∧ e ≤ daysInMonth year n)
    (h : daysBeforeMonth year m + d = daysBeforeMonth year n + e) : m = n ∧ d = e :=
  span_unique (fun _ => daysBeforeMonth_succ year) hm hn hd he h

theorem monthOf_spec {year fuel month day : Nat} (hfuel : month + fuel = 12) (hmonth : 1 ≤ month)
    (hpos : 1 ≤ day) (hday : daysBeforeMonth year month + day ≤ daysInYear year) :
    1 ≤ (Date.monthOf year fuel month day).1 ∧ (Date.monthOf year fuel month day).1 ≤ 12 ∧
      (1 ≤ (Date.monthOf year fuel month day).2 ∧ (Date.monthOf year fuel month day).2 ≤
        daysInMonth year (Date.monthOf year fuel month day).1) ∧
      daysBeforeMonth year (Date.monthOf year fuel month day).1 +
        (Date.monthOf year fuel month day).2 = daysBeforeMonth year month + day := by
  induction fuel generalizing month day with
  | zero =>
      obtain rfl : month = 12 := by omega
      have hend := daysBeforeMonth_succ year hmonth
      rw [daysBeforeMonth_thirteen] at hend
      exact ⟨hmonth, Nat.le_refl _, ⟨hpos, by simp only [Date.monthOf]; omega⟩, rfl⟩
  | succ fuel ih =>
      rw [Date.monthOf]
      split
      · next hle => exact ⟨hmonth, by omega, ⟨hpos, hle⟩, rfl⟩
      · have hnext := daysBeforeMonth_succ year hmonth
        obtain ⟨hpos, hle, hrange, heq⟩ := @ih (month + 1)
          (day - daysInMonth year month) (by omega) (by omega) (by omega) (by omega)
        exact ⟨hpos, hle, hrange, by omega⟩

namespace Date

theorem make?_eq_some_iff {year month day : Nat} {d : Date} :
    make? year month day = some d ↔ d.year = year ∧ d.month = month ∧ d.day = day := by
  constructor
  · intro h
    rw [make?, make] at h
    split at h
    · split at h
      · split at h
        · cases h
          exact ⟨rfl, rfl, rfl⟩
        · cases h
      · cases h
    · cases h
  · rintro ⟨rfl, rfl, rfl⟩
    rw [make?, make_fields]
    rfl

theorem yearDay_le (d : Date) : daysBeforeMonth d.year d.month + d.day ≤ daysInYear d.year := by
  have hnext := daysBeforeMonth_succ d.year d.month_range.1
  have hend : daysBeforeMonth d.year (d.month + 1) ≤ daysBeforeMonth d.year 13 :=
    start_mono (fun _ => daysBeforeMonth_succ d.year) (by omega) (Nat.succ_le_succ d.month_range.2)
  have hday := d.day_range.2
  rw [daysBeforeMonth_thirteen] at hend
  omega

theorem ofYearDay?_eq_some_iff {year day : Nat} {d : Date} (hpos : 1 ≤ day)
    (hday : day ≤ daysInYear year) :
    ofYearDay? year day = some d ↔ d.year = year ∧ daysBeforeMonth year d.month + d.day = day := by
  obtain ⟨hlow, -, hrange, hsum⟩ := @monthOf_spec year 11 1 day rfl
    (Nat.le_refl 1) hpos (by rw [daysBeforeMonth]; omega)
  rw [daysBeforeMonth, Nat.zero_add] at hsum
  rw [ofYearDay?, if_pos ⟨hpos, hday⟩, make?_eq_some_iff]
  constructor
  · rintro ⟨rfl, hmonth, hd⟩
    rw [hmonth, hd]
    exact ⟨rfl, hsum⟩
  · rintro ⟨rfl, hd⟩
    obtain ⟨hmonth, hday⟩ := month_unique d.month_range.1 hlow d.day_range hrange (hd.trans hsum.symm)
    exact ⟨rfl, hmonth, hday⟩

end Date

/-! ### Years -/

theorem daysBeforeYear_succ {year : Nat} (h : 1 ≤ year) :
    daysBeforeYear (year + 1) = daysBeforeYear year + daysInYear year := by
  obtain ⟨y, rfl⟩ : ∃ y, year = y + 1 := ⟨year - 1, by omega⟩
  have hfour : (y + 1) / 4 = y / 4 + if (y + 1) % 4 = 0 then 1 else 0 := by split <;> omega
  have hcentury : (y + 1) / 100 = y / 100 + if (y + 1) % 100 = 0 then 1 else 0 := by split <;> omega
  have hlong : (y + 1) / 400 = y / 400 + if (y + 1) % 400 = 0 then 1 else 0 := by split <;> omega
  have hle : y / 100 ≤ y / 4 := by omega
  rw [daysBeforeYear, daysBeforeYear, daysInYear, Nat.add_sub_cancel, Nat.add_sub_cancel, hfour,
    hcentury, hlong]
  cases hleap : isLeap (y + 1) with
  | true =>
      rw [if_pos rfl]
      obtain ⟨h4, h100 | h400⟩ := isLeap_iff.mp hleap
      · rw [if_pos h4, if_neg h100, if_neg (by omega)]
        omega
      · rw [if_pos h4, if_pos (by omega), if_pos h400]
        omega
  | false =>
      rw [if_neg Bool.false_ne_true]
      obtain h4 | ⟨h100, h400⟩ := isLeap_eq_false_iff.mp hleap
      · rw [if_neg h4, if_neg (by omega), if_neg (by omega)]
        omega
      · rw [if_pos (by omega), if_pos h100, if_neg h400]
        omega

/-- A day of the calendar is in one year only. -/
theorem year_unique {m n d e : Nat} (hm : 1 ≤ m) (hn : 1 ≤ n) (hd : 1 ≤ d ∧ d ≤ daysInYear m)
    (he : 1 ≤ e ∧ e ≤ daysInYear n) (h : daysBeforeYear m + d = daysBeforeYear n + e) :
    m = n ∧ d = e :=
  span_unique (fun _ => daysBeforeYear_succ) hm hn hd he h

namespace Date

theorem daysBeforeYear_of_spans {a b c e : Nat} (hb : b ≤ 3) (hc : c ≤ 24) (he : e ≤ 3) :
    daysBeforeYear (400 * a + 100 * b + 4 * c + e + 1) =
      146097 * a + 36524 * b + 1461 * c + 365 * e := by
  have hfour : (400 * a + 100 * b + 4 * c + e) / 4 = 100 * a + 25 * b + c := by omega
  have hcentury : (400 * a + 100 * b + 4 * c + e) / 100 = 4 * a + b := by omega
  have hlong : (400 * a + 100 * b + 4 * c + e) / 400 = a := by omega
  rw [daysBeforeYear, Nat.add_sub_cancel, hfour, hcentury, hlong]
  omega

/-- The year that a count of days is in, and the day of that year. -/
theorem exists_ofOrdinal?_eq {n : Nat} (h : n ≠ 0) :
    ∃ year day, ofOrdinal? n = ofYearDay? year day ∧ 1 ≤ year ∧ (1 ≤ day ∧ day ≤ daysInYear year) ∧
      daysBeforeYear year + day = n := by
  rw [ofOrdinal?, if_neg h]
  simp only
  -- The spans of 400, 100 and 4 years and of one year, and what is left of the count after each.
  generalize ha : (n - 1) / 146097 = a
  generalize hr : (n - 1) % 146097 = r
  generalize hb : min (r / 36524) 3 = b
  generalize hs : r - 36524 * b = s
  generalize hc : s / 1461 = c
  generalize hu : s % 1461 = u
  generalize he : min (u / 365) 3 = e
  have hn : n - 1 = 146097 * a + r := by omega
  have hcentury : b ≤ 3 ∧ 36524 * b ≤ r ∧ (b < 3 → s < 36524) := by omega
  have hfour : c ≤ 24 := by omega
  have hyear : e ≤ 3 ∧ 365 * e ≤ u ∧ (e < 3 → u - 365 * e < 365) := by omega
  refine ⟨_, _, rfl, by omega, ⟨by omega, ?_⟩, ?_⟩
  · rw [daysInYear]
    cases hleap : isLeap (400 * a + 100 * b + 4 * c + e + 1) with
    | true =>
        rw [if_pos rfl]
        omega
    | false =>
        -- Only the last year of four has a day more, and in a full century only the last of 400.
        rw [isLeap_eq_false_iff] at hleap
        rw [if_neg Bool.false_ne_true]
        omega
  · rw [daysBeforeYear_of_spans hcentury.1 hfour hyear.1]
    omega

/-- A date is found from its ordinal, and from no other number. -/
theorem ofOrdinal?_eq_some_iff {n : Nat} {d : Date} : ofOrdinal? n = some d ↔ d.ordinal = n := by
  have hyearDay := d.yearDay_le
  have hday := d.day_range.1
  by_cases hn : n = 0
  · subst hn
    simp only [ofOrdinal?, if_true, reduceCtorEq, false_iff, ordinal]
    omega
  · obtain ⟨year, day, heq, hyear, hrange, hsum⟩ := exists_ofOrdinal?_eq hn
    rw [heq, ofYearDay?_eq_some_iff hrange.1 hrange.2, ordinal, ← hsum, Nat.add_assoc]
    constructor
    · rintro ⟨rfl, hd⟩
      rw [hd]
    · intro h
      obtain ⟨rfl, hd⟩ := year_unique d.year_range.1 hyear ⟨by omega, hyearDay⟩ hrange h
      exact ⟨rfl, hd⟩

end Date

end Timetable
