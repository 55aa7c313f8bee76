import Timetable.Expression
import Timetable.Proofs.Text.Numeral
import Timetable.Proofs.Text.Split

/-!
The times of an expression. Main statements: what is taken for a time is a written time, a written
time is taken whole when no colon follows it, and it is read as the time that it writes.
-/
namespace Timetable.TimeOfDay

open Text (padded)

/-- The hour stands with two digits or, below ten, with one. -/
def HourWidth (width hour : Nat) : Prop :=
  width = 2 ∨ (width = 1 ∧ hour < 10)

/-- A text writes a time of day: the hour with one digit or two, the minute and the second with two
each. The second may be left out and is 0 then. -/
inductive Written : List Char → TimeOfDay → Prop
  | minutes {width hour minute : Nat} {t : TimeOfDay} :
      HourWidth width hour → ofClock? hour minute 0 0 = some t →
        Written (padded width hour ++ ':' :: padded 2 minute) t
  | seconds {width hour minute second : Nat} {t : TimeOfDay} :
      HourWidth width hour → ofClock? hour minute second 0 = some t →
        Written (padded width hour ++ ':' :: padded 2 minute ++ ':' :: padded 2 second) t

theorem bounds_of_ofClock? {h m s us : Nat} {t : TimeOfDay} (ht : ofClock? h m s us = some t) :
    h < 24 ∧ m < 60 ∧ s < 60 := by
  obtain ⟨rfl, rfl, rfl, -⟩ := views_of_ofClock? ht
  exact ⟨t.hour_lt, t.minute_lt, t.second_lt⟩

theorem exists_ofClock? {h m s : Nat} (hh : h < 24) (hm : m < 60) (hs : s < 60) :
    ∃ t, ofClock? h m s 0 = some t := by
  simp [ofClock?, hh, hm, hs]

theorem colon_not_mem_padded (width n : Nat) : ':' ∉ padded width n := by
  intro h
  exact absurd (Text.isDigit_of_mem_padded h) (by decide)

theorem padded_two {i j : Nat} (hi : i < 10) (hj : j < 10) :
    padded 2 (10 * i + j) = [Nat.digitChar i, Nat.digitChar j] := by
  have htens : (10 * i + j) / 10 % 10 = i := by omega
  have hones : (10 * i + j) % 10 = j := by omega
  simp [padded, htens, hones]

end Timetable.TimeOfDay

namespace Timetable.Tokens

open Text (padded)
open TimeOfDay (HourWidth Written)

/-- Two characters are checked digit by digit: the check is a bound on the number they write. -/
theorem pair_iff_exists_padded {p : Char → Char → Bool} {bound : Nat} (hbound : bound ≤ 100)
    (hdigits : ∀ a b, p a b = true → a.isDigit = true ∧ b.isDigit = true)
    (hp : ∀ i < 10, ∀ j < 10,
      p (Nat.digitChar i) (Nat.digitChar j) = decide (10 * i + j < bound)) {a b : Char} :
    p a b = true ↔ ∃ n < bound, padded 2 n = [a, b] := by
  constructor
  · intro h
    obtain ⟨ha, hb⟩ := hdigits a b h
    obtain ⟨i, hi, rfl⟩ := Text.isDigit_iff_exists_digitChar.mp ha
    obtain ⟨j, hj, rfl⟩ := Text.isDigit_iff_exists_digitChar.mp hb
    rw [hp i hi j hj, decide_eq_true_eq] at h
    exact ⟨10 * i + j, h, TimeOfDay.padded_two hi hj⟩
  · rintro ⟨n, hn, heq⟩
    have hi : n / 10 < 10 := by omega
    have hj : n % 10 < 10 := by omega
    have hsplit : 10 * (n / 10) + n % 10 = n := by omega
    rw [← hsplit, TimeOfDay.padded_two hi hj] at heq
    obtain ⟨rfl, hrest⟩ := List.cons.inj heq
    obtain ⟨rfl, -⟩ := List.cons.inj hrest
    rw [hp _ hi _ hj, hsplit, decide_eq_true_eq]
    exact hn

theorem isHour_iff {a b : Char} : isHour a b = true ↔ ∃ n < 24, padded 2 n = [a, b] := by
  apply pair_iff_exists_padded (by decide)
  · intro a b h
    simp only [isHour, Bool.or_eq_true, Bool.and_eq_true, beq_iff_eq] at h
    rcases h with ⟨rfl | rfl, hb⟩ | ⟨⟨rfl, hb⟩, -⟩
    all_goals exact ⟨by decide, hb⟩
  · decide

theorem isSixtieth_iff {a b : Char} :
    (isSixth a && b.isDigit) = true ↔ ∃ n < 60, padded 2 n = [a, b] := by
  apply pair_iff_exists_padded (p := fun a b => isSixth a && b.isDigit) (by decide)
  · intro a b h
    simp only [isSixth, Bool.and_eq_true] at h
    exact ⟨h.1.1, h.2⟩
  · decide

theorem takeSixtieth_eq_some_iff {cs token rest : List Char} :
    takeSixtieth cs = some (token, rest) ↔
      ∃ n < 60, token = ':' :: padded 2 n ∧ cs = token ++ rest := by
  constructor
  · intro h
    unfold takeSixtieth at h
    split at h
    · next a b cs =>
        split at h
        · next hdigits =>
            obtain ⟨n, hn, hpadded⟩ := isSixtieth_iff.mp hdigits
            cases h
            exact ⟨n, hn, by rw [hpadded], rfl⟩
        · cases h
    · cases h
  · rintro ⟨n, hn, rfl, rfl⟩
    obtain ⟨a, b, hpadded⟩ : ∃ a b, padded 2 n = [a, b] := ⟨_, _, rfl⟩
    have hdigits := isSixtieth_iff.mpr ⟨n, hn, hpadded⟩
    simp only [hpadded, List.cons_append, List.nil_append, takeSixtieth, hdigits, if_true]

theorem takeSixtieth_eq_none {rest : List Char} (h : rest.head? ≠ some ':') :
    takeSixtieth rest = none := by
  rw [Option.eq_none_iff_forall_ne_some]
  rintro ⟨token, left⟩ htake
  obtain ⟨n, -, rfl, rfl⟩ := takeSixtieth_eq_some_iff.mp htake
  exact h rfl

theorem takeHour_eq_some_iff {cs token rest : List Char} :
    takeHour cs = some (token, rest) ↔
      ∃ width hour, HourWidth width hour ∧ hour < 24 ∧ token = padded width hour ∧
        cs = token ++ rest ∧ rest.head? = some ':' := by
  constructor
  · intro h
    unfold takeHour at h
    split at h
    · next a cs =>
        split at h
        · next ha =>
            obtain ⟨n, hn, rfl⟩ := Text.isDigit_iff_exists_digitChar.mp ha
            cases h
            refine ⟨1, n, Or.inr ⟨rfl, hn⟩, by omega, ?_, rfl, rfl⟩
            simp [padded, Nat.mod_eq_of_lt hn]
        · cases h
    · next a b cs _ =>
        split at h
        · next hab =>
            obtain ⟨n, hn, hpadded⟩ := isHour_iff.mp hab
            cases h
            exact ⟨2, n, Or.inl rfl, hn, hpadded.symm, rfl, rfl⟩
        · cases h
    · cases h
  · rintro ⟨width, hour, hwidth, hhour, rfl, rfl, hhead⟩
    obtain ⟨tail, rfl⟩ : ∃ tail, rest = ':' :: tail := by
      cases rest with
      | nil => cases hhead
      | cons c tail => exact ⟨tail, by rw [Option.some.inj hhead]⟩
    rcases hwidth with rfl | ⟨rfl, hten⟩
    · obtain ⟨a, b, hpadded⟩ : ∃ a b, padded 2 hour = [a, b] := ⟨_, _, rfl⟩
      have hcolon : b ≠ ':' := by
        rintro rfl
        exact TimeOfDay.colon_not_mem_padded 2 hour (by simp [hpadded])
      have hab : isHour a b = true := isHour_iff.mpr ⟨hour, hhour, hpadded⟩
      rw [hpadded, List.cons_append, List.cons_append, List.nil_append, takeHour.eq_2 a b tail hcolon,
        if_pos hab]
    · have hdigit : (Nat.digitChar hour).isDigit = true := by simp [Nat.isDigit_digitChar, hten]
      simp [padded, Nat.mod_eq_of_lt hten, takeHour, hdigit]

theorem takeSixtieth_append {n : Nat} (h : n < 60) (rest : List Char) :
    takeSixtieth (':' :: (padded 2 n ++ rest)) = some (':' :: padded 2 n, rest) :=
  takeSixtieth_eq_some_iff.mpr ⟨n, h, rfl, rfl⟩

theorem takeHour_append {width hour : Nat} (hwidth : HourWidth width hour) (hhour : hour < 24)
    (rest : List Char) :
    takeHour (padded width hour ++ ':' :: rest) = some (padded width hour, ':' :: rest) :=
  takeHour_eq_some_iff.mpr ⟨width, hour, hwidth, hhour, rfl, rfl, rfl⟩

theorem written_of_takeTime {cs token rest : List Char} (h : takeTime cs = some (token, rest)) :
    cs = token ++ rest ∧ ∃ t, Written token t := by
  unfold takeTime at h
  split at h
  · cases h
  · next hourToken cs₁ htaken =>
      obtain ⟨width, hour, hwidth, hhour, rfl, rfl, -⟩ := takeHour_eq_some_iff.mp htaken
      split at h
      · cases h
      · next minuteToken cs₂ htaken =>
          obtain ⟨minute, hminute, rfl, rfl⟩ := takeSixtieth_eq_some_iff.mp htaken
          split at h
          · cases h
            obtain ⟨t, ht⟩ := TimeOfDay.exists_ofClock? hhour hminute (show 0 < 60 by decide)
            exact ⟨by simp, t, .minutes hwidth ht⟩
          · next secondToken cs₃ htaken =>
              obtain ⟨second, hsecond, rfl, rfl⟩ := takeSixtieth_eq_some_iff.mp htaken
              cases h
              obtain ⟨t, ht⟩ := TimeOfDay.exists_ofClock? hhour hminute hsecond
              exact ⟨by simp, t, by simpa using Written.seconds hwidth ht⟩

/-- A written time is taken whole, for the seconds that could follow would begin with a colon. -/
theorem takeTime_append {token rest : List Char} {t : TimeOfDay} (h : Written token t)
    (hrest : rest.head? ≠ some ':') : takeTime (token ++ rest) = some (token, rest) := by
  cases h with
  | minutes hwidth ht =>
      obtain ⟨hhour, hminute, -⟩ := TimeOfDay.bounds_of_ofClock? ht
      rw [List.append_assoc, List.cons_append, takeTime, takeHour_append hwidth hhour]
      simp only [takeSixtieth_append hminute, takeSixtieth_eq_none hrest]
  | seconds hwidth ht =>
      obtain ⟨hhour, hminute, hsecond⟩ := TimeOfDay.bounds_of_ofClock? ht
      rw [List.append_assoc, List.append_assoc, List.cons_append, List.cons_append, takeTime,
        takeHour_append hwidth hhour]
      simp only [takeSixtieth_append hminute, takeSixtieth_append hsecond, List.append_assoc,
        List.cons_append]

end Timetable.Tokens

namespace Timetable.TimeOfDay

open Text (padded)

theorem read_padded_hour {width hour : Nat} (hwidth : HourWidth width hour) (hhour : hour < 24) :
    Text.Numeral.read (padded width hour) = .ok (hour : Int) := by
  rcases hwidth with rfl | ⟨rfl, hten⟩
  · exact Text.Numeral.read_padded (by decide) (by decide) (show hour < 100 by omega)
  · exact Text.Numeral.read_padded (by decide) (by decide) hten

theorem read_padded_sixtieth {n : Nat} (h : n < 60) :
    Text.Numeral.read (padded 2 n) = .ok (n : Int) :=
  Text.Numeral.read_padded (by decide) (by decide) (show n < 100 by omega)

theorem checkWord_of_lt {n : Nat} (h : n < 60) : checkWord n = .ok (n : Int) := by
  have hfits : Word.fits Word.bound64 n = true := by
    rw [Word.fits_iff, Word.bound64]
    omega
  have habove : ¬Word.bound32 ≤ (n : Int) := by
    rw [Word.bound32]
    omega
  have hbelow : ¬(n : Int) < -Word.bound32 := by
    rw [Word.bound32]
    omega
  simp [checkWord, hfits, habove, hbelow]

theorem ofParts_of_ofClock? {hour minute second : Nat} {t : TimeOfDay}
    (h : ofClock? hour minute second 0 = some t) : ofParts hour minute second = .ok t := by
  obtain ⟨hhour, hminute, hsecond⟩ := bounds_of_ofClock? h
  rw [ofParts, checkWord_of_lt (by omega), checkWord_of_lt hminute, checkWord_of_lt hsecond]
  simp only [bind, Except.bind, Int.toNat_natCast, h]
  rw [if_neg (by omega), if_neg (by omega), if_neg (by omega)]

theorem digit_or_colon_of_mem_written {cs : List Char} {t : TimeOfDay} (h : Written cs t) :
    ∀ c ∈ cs, c.isDigit = true ∨ c = ':' := by
  intro c hc
  cases h with
  | minutes hwidth ht =>
      simp only [List.mem_append, List.mem_cons] at hc
      rcases hc with hc | rfl | hc
      · exact Or.inl (Text.isDigit_of_mem_padded hc)
      · exact Or.inr rfl
      · exact Or.inl (Text.isDigit_of_mem_padded hc)
  | seconds hwidth ht =>
      simp only [List.mem_append, List.mem_cons] at hc
      rcases hc with (hc | rfl | hc) | rfl | hc
      · exact Or.inl (Text.isDigit_of_mem_padded hc)
      · exact Or.inr rfl
      · exact Or.inl (Text.isDigit_of_mem_padded hc)
      · exact Or.inr rfl
      · exact Or.inl (Text.isDigit_of_mem_padded hc)

theorem not_isBlank_of_mem_written {cs : List Char} {t : TimeOfDay} (h : Written cs t) :
    ∀ c ∈ cs, Text.isBlank c = false := by
  intro c hc
  rcases digit_or_colon_of_mem_written h c hc with hdigit | rfl
  · exact Text.not_isBlank_of_isDigit hdigit
  · decide

theorem exists_cons_of_hourWidth {width hour : Nat} (h : HourWidth width hour) (rest : List Char) :
    ∃ c cs, padded width hour ++ rest = c :: cs ∧ c.isDigit = true := by
  obtain ⟨c, cs, hcons⟩ : ∃ c cs, padded width hour = c :: cs := by
    rcases h with rfl | ⟨rfl, -⟩
    · exact ⟨_, _, rfl⟩
    · exact ⟨_, _, rfl⟩
  refine ⟨c, cs ++ rest, by rw [hcons, List.cons_append], ?_⟩
  exact Text.isDigit_of_mem_padded (hcons ▸ List.mem_cons_self)

/-- A written time begins with a digit. -/
theorem exists_cons_of_written {cs : List Char} {t : TimeOfDay} (h : Written cs t) :
    ∃ c ds, cs = c :: ds ∧ c.isDigit = true := by
  cases h with
  | minutes hwidth ht => exact exists_cons_of_hourWidth hwidth _
  | seconds hwidth ht =>
      rw [List.append_assoc]
      exact exists_cons_of_hourWidth hwidth _

theorem read_of_written {cs : List Char} {t : TimeOfDay} (h : Written cs t) :
    read (String.ofList cs) = .ok (some t) := by
  have htrim : Text.trim cs = cs := Text.trim_eq_self (not_isBlank_of_mem_written h)
  have hcons : cs.isEmpty = false := by
    obtain ⟨c, ds, rfl, -⟩ := exists_cons_of_written h
    rfl
  rw [read, String.toList_ofList, htrim]
  simp only [hcons, Bool.false_eq_true, if_false]
  cases h with
  | @minutes width hour minute _ hwidth ht =>
      obtain ⟨hhour, hminute, -⟩ := bounds_of_ofClock? ht
      have hsplit : Text.splitAt ':' (padded width hour ++ ':' :: padded 2 minute) =
          [padded width hour, padded 2 minute] := by
        rw [Text.splitAt_append_cons (colon_not_mem_padded width hour),
          Text.splitAt_of_not_mem (colon_not_mem_padded 2 minute)]
      have hnumbers : readNumbers [padded width hour, padded 2 minute] =
          .ok [(hour : Int), (minute : Int)] := by
        rw [readNumbers, read_padded_hour hwidth hhour, readNumbers, read_padded_sixtieth hminute,
          readNumbers]
      have hparts : ofParts hour minute 0 = .ok t := by simpa using ofParts_of_ofClock? ht
      rw [hsplit, hnumbers]
      show (ofParts hour minute 0).map some = .ok (some t)
      rw [hparts]
      rfl
  | @seconds width hour minute second _ hwidth ht =>
      obtain ⟨hhour, hminute, hsecond⟩ := bounds_of_ofClock? ht
      have hsplit :
          Text.splitAt ':' (padded width hour ++ ':' :: padded 2 minute ++ ':' :: padded 2 second) =
          [padded width hour, padded 2 minute, padded 2 second] := by
        rw [List.append_assoc, List.cons_append,
          Text.splitAt_append_cons (colon_not_mem_padded width hour),
          Text.splitAt_append_cons (colon_not_mem_padded 2 minute),
          Text.splitAt_of_not_mem (colon_not_mem_padded 2 second)]
      have hnumbers : readNumbers [padded width hour, padded 2 minute, padded 2 second] =
          .ok [(hour : Int), (minute : Int), (second : Int)] := by
        rw [readNumbers, read_padded_hour hwidth hhour, readNumbers, read_padded_sixtieth hminute,
          readNumbers, read_padded_sixtieth hsecond, readNumbers]
      rw [hsplit, hnumbers]
      show (ofParts hour minute second).map some = .ok (some t)
      rw [ofParts_of_ofClock? ht]
      rfl

/-- A text writes one time at most. -/
theorem eq_of_written {cs : List Char} {s t : TimeOfDay} (hs : Written cs s) (ht : Written cs t) :
    s = t := by
  have hread := read_of_written hs
  rw [read_of_written ht, Except.ok.injEq, Option.some.injEq] at hread
  exact hread.symm

/-- The clock text of a time writes the time cut to whole seconds. -/
theorem written_clockText (t : TimeOfDay) : Written t.clockText t.wholeSeconds := by
  obtain ⟨s, hs⟩ := exists_ofClock? t.hour_lt t.minute_lt t.second_lt
  have hticks := s.ticks_eq
  obtain ⟨hhour, hminute, hsecond, hmicrosecond⟩ := views_of_ofClock? hs
  have heq : s = t.wholeSeconds := by
    apply ext_ticks
    rw [hticks, hhour, hminute, hsecond, hmicrosecond]
    simp only [wholeSeconds, hour, minute, second]
    omega
  subst heq
  exact .seconds (Or.inl rfl) hs

end Timetable.TimeOfDay

namespace Timetable.Expression

open TimeOfDay (Written)

/-- An optional time token stands for an optional time. -/
theorem readTime_eq_ok_iff {token : Option (List Char)}
    (h : ∀ cs, token = some cs → ∃ t, Written cs t) {time : Option TimeOfDay} :
    readTime token = .ok time ↔ Option.Rel Written token time := by
  cases token with
  | none =>
      rw [readTime, Except.ok.injEq]
      constructor
      · rintro rfl
        exact .none
      · rintro ⟨⟩
        rfl
  | some cs =>
      obtain ⟨t, ht⟩ := h cs rfl
      have hread : readTime (some cs) = .ok (some t) := by
        rw [readTime, TimeOfDay.read_of_written ht]
        rfl
      rw [hread, Except.ok.injEq]
      constructor
      · rintro rfl
        exact .some ht
      · rintro ⟨hs⟩
        rw [TimeOfDay.eq_of_written ht hs]

end Timetable.Expression
