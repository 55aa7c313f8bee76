import Timetable.Notice
import Timetable.Proofs.Expression.Acceptance

/-!
Why texts are rejected, and what the reading reports about it. Main statement: a text that leads to no fault
is accepted without a report or rejected with one, and the reason in the report is one of three, each for
its own kind of texts.
-/
namespace Timetable.Tokens

open TimeOfDay (Written)

/-- The tokens stand for two times, and the first is not before the second. -/
def IsDisordered (t : Tokens) : Prop :=
  ∃ start stop s e, t.start = some start ∧ t.stop = some stop ∧ Written start s ∧ Written stop e ∧
    ¬s < e

theorem isDisordered_iff {t : Tokens} {day : Option Weekday} {s e : TimeOfDay}
    (h : t.Denotes day (some s) (some e)) : t.IsDisordered ↔ ¬s < e := by
  obtain ⟨start, hstart, hs⟩ := exists_token h.start rfl
  obtain ⟨stop, hstop, he⟩ := exists_token h.stop rfl
  constructor
  · rintro ⟨start', stop', s', e', hstart', hstop', hs', he', hnot⟩
    rw [hstart, Option.some.injEq] at hstart'
    rw [hstop, Option.some.injEq] at hstop'
    subst hstart' hstop'
    rw [TimeOfDay.eq_of_written hs hs', TimeOfDay.eq_of_written he he']
    exact hnot
  · intro hnot
    exact ⟨start, stop, s, e, hstart, hstop, hs, he, hnot⟩

/-- The times of a text are both there or both missing. -/
theorem times_of_laidIn {t : Tokens} {cs : List Char} {day : Option Weekday}
    {start stop : Option TimeOfDay} (hlaid : t.LaidIn cs) (h : t.Denotes day start stop) :
    (t.start = none ∧ start = none ∧ stop = none) ∨ ∃ s e, start = some s ∧ stop = some e := by
  obtain ⟨-, -, -, hpair⟩ := hlaid
  rcases t with ⟨weekday, _, _⟩
  obtain ⟨-, hstart, hstop⟩ := h
  cases hpair with
  | absent =>
      cases hstart
      cases hstop
      exact Or.inl ⟨rfl, rfl, rfl⟩
  | present =>
      obtain ⟨s, hs, -⟩ := exists_meaning hstart rfl
      obtain ⟨e, he, -⟩ := exists_meaning hstop rfl
      exact Or.inr ⟨s, e, hs, he⟩

/-- A text without tokens is blank. -/
theorem allBlank_of_laidIn {t : Tokens} {cs : List Char} (hlaid : t.LaidIn cs)
    (hday : t.weekday = none) (hstart : t.start = none) : Text.allBlank cs = true := by
  obtain ⟨hfront, hgap, hback, hpair⟩ := hlaid
  rcases t with ⟨weekday, _, _⟩
  cases hday
  cases hpair with
  | absent => simp [Text.allBlank_append, hfront, hgap, hback]
  | present => cases hstart

end Timetable.Tokens

namespace Timetable.Expression

/-- The whole text has the form of an expression, in letters that may be lookalikes and with times in any
order. -/
def HasForm (text : String) : Prop :=
  ∃ t : Tokens, t.LaidIn text.toList ∧ t.WellFormed

def IsDisordered (text : String) : Prop :=
  ∃ t : Tokens, t.LaidIn text.toList ∧ t.WellFormed ∧ t.IsDisordered

/-- What a text is read as, with what stands in the text. -/
inductive Outcome (text : String) : Reading → Prop
  | blank (h : Text.allBlank text.toList = true) : Outcome text (.rejected .blank)
  | grammar (hvisible : Text.allBlank text.toList = false) (h : ¬HasForm text) :
      Outcome text (.rejected .grammar)
  | lookalike (h : HasForm text) (e : Weekday.Unknown) : Outcome text (.faulty (.weekday e))
  | order {t : Tokens} (hlaid : t.LaidIn text.toList) (hform : t.WellFormed) (h : t.IsDisordered) :
      Outcome text (.rejected .order)
  | accepted {t : Tokens} {w : Window} (hlaid : t.LaidIn text.toList) (h : t.Spells w) :
      Outcome text (.accepted w)

variable {text : String}

/-- Tokens that stand for something, in a text that is not blank, are accepted unless the times are out of
order. -/
theorem outcome_judge {t : Tokens} {day : Option Weekday} {start stop : Option TimeOfDay}
    (hvisible : Text.allBlank text.toList = false) (hlaid : t.LaidIn text.toList)
    (h : t.Denotes day start stop) : Outcome text (judge day start stop) := by
  rcases Tokens.times_of_laidIn hlaid h with ⟨hnone, rfl, rfl⟩ | ⟨s, e, rfl, rfl⟩
  -- Without times there is a weekday, for the text is not blank.
  · cases day with
    | none =>
        have hday : t.weekday = none := by
          cases hweekday : t.weekday with
          | none => rfl
          | some name =>
              obtain ⟨d, hd, -⟩ := Tokens.exists_meaning h.weekday hweekday
              cases hd
        rw [Tokens.allBlank_of_laidIn hlaid hday hnone] at hvisible
        cases hvisible
    | some d => exact .accepted (w := ⟨some d, none⟩) hlaid h
  · rw [judge_pair]
    split
    · next hlt => exact .accepted hlaid h
    · next hnot => exact .order hlaid h.wellFormed ((Tokens.isDisordered_iff h).mpr hnot)

theorem outcome_read (text : String) : Outcome text (read text) := by
  unfold read
  split
  · next hblank => exact .blank hblank
  · next hvisible =>
      rw [Bool.not_eq_true] at hvisible
      split
      · next hscan =>
          refine .grammar hvisible ?_
          rintro ⟨t, hlaid, hform⟩
          rw [Tokens.scan_of_laidIn hlaid hform] at hscan
          cases hscan
      · next t hscan =>
          obtain ⟨hlaid, hform⟩ := Tokens.laidIn_of_scan hscan
          rcases Tokens.denotes_or_lookalike hform with hdenotes | ⟨name, hname, c, hc, hlook⟩
          · obtain ⟨day, start, stop, h⟩ := hdenotes
            rw [ofTokens_eq_judge h]
            exact outcome_judge hvisible hlaid h
          · rw [ofTokens_eq_faulty hform hname hc hlook]
            exact .lookalike ⟨t, hlaid, hform⟩ _

theorem outcome_of_read {r : Reading} (h : read text = r) : Outcome text r :=
  h ▸ outcome_read text

theorem read_ne_nothing (text : String) : read text ≠ .rejected .nothing := by
  intro h
  cases outcome_of_read h

theorem read_ne_unpaired (text : String) : read text ≠ .rejected .unpaired := by
  intro h
  cases outcome_of_read h

theorem read_ne_window_fault (text : String) (e : WindowError) : read text ≠ .faulty (.window e) := by
  intro h
  cases outcome_of_read h

theorem read_eq_blank_iff : read text = .rejected .blank ↔ Text.allBlank text.toList = true := by
  constructor
  · intro h
    cases outcome_of_read h with
    | blank hblank => exact hblank
  · intro h
    rw [read, if_pos h]

theorem read_eq_grammar_iff :
    read text = .rejected .grammar ↔ Text.allBlank text.toList = false ∧ ¬HasForm text := by
  constructor
  · intro h
    cases outcome_of_read h with
    | grammar hvisible hform => exact ⟨hvisible, hform⟩
  · rintro ⟨hvisible, hnot⟩
    have hscan : Tokens.scan text.toList = none := by
      cases hscan : Tokens.scan text.toList with
      | none => rfl
      | some t => exact absurd ⟨t, Tokens.laidIn_of_scan hscan⟩ hnot
    simp only [read, hvisible, hscan, Bool.false_eq_true, if_false]

theorem read_eq_order_iff (hfault : ∀ e, read text ≠ .faulty e) :
    read text = .rejected .order ↔ IsDisordered text := by
  constructor
  · intro h
    cases outcome_of_read h with
    | order hlaid hform hdisorder => exact ⟨_, hlaid, hform, hdisorder⟩
  · rintro ⟨t, hlaid, hform, hdisorder⟩
    have hstart : t.start.isSome := by
      obtain ⟨start, stop, s, e, hstart, -⟩ := hdisorder
      simp [hstart]
    have hread := read_eq_ofTokens hlaid hform (Or.inr hstart)
    rcases Tokens.denotes_or_lookalike hform with hdenotes | ⟨name, hname, c, hc, hlook⟩
    · obtain ⟨day, start, stop, h⟩ := hdenotes
      rcases Tokens.times_of_laidIn hlaid h with ⟨hnone, -⟩ | ⟨s, e, rfl, rfl⟩
      · simp [hnone] at hstart
      · have hnot := (Tokens.isDisordered_iff h).mp hdisorder
        rw [hread, ofTokens_eq_judge h, judge_pair, dif_neg hnot]
    · rw [ofTokens_eq_faulty hform hname hc hlook] at hread
      exact absurd hread (hfault _)

theorem exists_accepted_or_rejected (hfault : ∀ e, read text ≠ .faulty e) :
    (∃ w, read text = .accepted w) ∨ ∃ r, read text = .rejected r := by
  cases h : read text with
  | accepted w => exact Or.inl ⟨w, rfl⟩
  | rejected r => exact Or.inr ⟨r, rfl⟩
  | faulty e => exact absurd h (hfault e)

/-! ### Reports -/

/-- The lines that the reading of a text reports. -/
def reports (text : String) : List String :=
  (Notice.ofReading (.text text) (read text)).map Notice.line

/-- The line about a text that is rejected for a reason. -/
def rejectionLine (text reason : String) : String :=
  "DEBUG timefilters.domain.parser: Rejected range expression " ++ Text.quote text ++ ": " ++ reason

theorem rejectionLine_inj {reason reason' : String} :
    rejectionLine text reason = rejectionLine text reason' ↔ reason = reason' :=
  String.append_right_inj _

theorem Rejection.reason_inj {r r' : Rejection} : r.reason = r'.reason ↔ r = r' := by
  cases r <;> cases r' <;> decide

theorem reports_of_accepted {w : Window} (h : read text = .accepted w) : reports text = [] := by
  rw [reports, h]
  rfl

theorem reports_of_rejected {r : Rejection} (h : read text = .rejected r) :
    reports text = [rejectionLine text r.reason] := by
  rw [reports, h]
  rfl

theorem reports_eq_iff (r : Rejection) :
    reports text = [rejectionLine text r.reason] ↔ read text = .rejected r := by
  constructor
  · intro h
    cases hread : read text with
    | accepted w =>
        rw [reports_of_accepted hread] at h
        cases h
    | rejected r' =>
        rw [reports_of_rejected hread, List.singleton_inj, rejectionLine_inj, Rejection.reason_inj] at h
        rw [h]
    | faulty e =>
        rw [reports, hread] at h
        cases h
  · exact reports_of_rejected

/-- A text that leads to no fault is accepted without a report, or it is rejected and exactly one line tells
the reason. A text of blanks is empty, another text that has not the form of an expression does not match the
grammar, and the times of a text are out of order if the first is not before the second. Whatever the text,
its tokens are neither missing nor half a pair of times, and its window can be made. -/
theorem rejection_reported (text : String) :
    ((∀ e, read text ≠ .faulty e) →
      (((∃ w, read text = .accepted w) ∧ reports text = []) ∨
        (¬∃ w, read text = .accepted w) ∧ ∃ reason, reports text = [rejectionLine text reason]) ∧
      (reports text = [rejectionLine text "empty expression"] ↔
        ∀ c ∈ text.toList, Text.isBlank c = true) ∧
      (reports text = [rejectionLine text "does not match grammar"] ↔
        (∃ c ∈ text.toList, Text.isBlank c = false) ∧ ¬HasForm text) ∧
      (reports text = [rejectionLine text "start time must be before end time"] ↔
        IsDisordered text)) ∧
    read text ≠ .rejected .nothing ∧ read text ≠ .rejected .unpaired ∧
      ∀ e, read text ≠ .faulty (.window e) := by
  refine ⟨?_, read_ne_nothing text, read_ne_unpaired text, read_ne_window_fault text⟩
  intro hfault
  refine ⟨?_, ?_, ?_, ?_⟩
  · rcases exists_accepted_or_rejected hfault with ⟨w, h⟩ | ⟨r, h⟩
    · exact Or.inl ⟨⟨w, h⟩, reports_of_accepted h⟩
    · exact Or.inr ⟨by simp [h], r.reason, reports_of_rejected h⟩
  · rw [← List.all_eq_true]
    exact (reports_eq_iff .blank).trans read_eq_blank_iff
  · have hvisible : (∃ c ∈ text.toList, Text.isBlank c = false) ↔ Text.allBlank text.toList = false := by
      simp [Text.allBlank, List.all_eq_false]
    rw [hvisible]
    exact (reports_eq_iff .grammar).trans read_eq_grammar_iff
  · exact (reports_eq_iff .order).trans (read_eq_order_iff hfault)

/-- A window has to have a length: two times that are the same are out of order. -/
theorem rejection_reported_noon :
    reports "Mon 12:00 - 12:00" = ["DEBUG timefilters.domain.parser: Rejected range expression " ++
      "'Mon 12:00 - 12:00': start time must be before end time"] ∧ IsDisordered "Mon 12:00 - 12:00" := by
  have hread : read "Mon 12:00 - 12:00" = .rejected .order := by decide
  obtain ⟨h, -⟩ := rejection_reported "Mon 12:00 - 12:00"
  obtain ⟨-, -, -, horder⟩ := h (by simp [hread])
  have hreports : reports "Mon 12:00 - 12:00" =
      [rejectionLine "Mon 12:00 - 12:00" "start time must be before end time"] := by
    decide +kernel
  exact ⟨by decide +kernel, horder.mp hreports⟩

end Timetable.Expression
