import Mathlib.Data.List.Basic
import Timetable.Proofs.Expression.Acceptance

/-!
Windows from texts for the parts of an expression. The texts are put together and the expression is taken apart
anew, so a token can be found in the text for another part. Main statement: the stop is always read from its own
text, and the weekday and the start are read from theirs or stand together in one text before the dash.
-/
namespace Timetable

open Text (allBlank trim)
open TimeOfDay (Written)

/-- A text is a written time, blanks around it left aside. -/
def HoldsTime (t : TimeOfDay) (cs : List Char) : Prop :=
  Written (trim cs) t

/-- A text is a weekday, or blank, in its front part, and a written time in the rest of it. -/
def HoldsStart (day : Option Weekday) (start : TimeOfDay) (cs : List Char) : Prop :=
  ∃ front back, cs = front ++ back ∧ Weekday.read (String.ofList front) = .ok day ∧ HoldsTime start back

variable {cs front back : List Char} {day : Option Weekday} {start t : TimeOfDay}

/-! ### Texts for one time -/

theorem holdsTime_iff :
    HoldsTime t cs ↔ ∃ front token back, cs = front ++ token ++ back ∧ allBlank front = true ∧
      allBlank back = true ∧ Written token t := by
  constructor
  · intro h
    obtain ⟨front, back, hfront, hback, hcs⟩ := Text.exists_append_trim cs
    exact ⟨front, trim cs, back, hcs, hfront, hback, h⟩
  · rintro ⟨front, token, back, rfl, hfront, hback, h⟩
    rwa [HoldsTime, Text.trim_append hfront hback (TimeOfDay.not_isBlank_of_mem_written h)]

theorem read_of_holdsTime {text : String} (h : HoldsTime t text.toList) :
    TimeOfDay.read text = .ok (some t) := by
  have htrim := Text.trim_eq_self (TimeOfDay.not_isBlank_of_mem_written h)
  have hsame : TimeOfDay.read text = TimeOfDay.read (String.ofList (trim text.toList)) := by
    simp only [TimeOfDay.read, String.toList_ofList, htrim]
  rw [hsame, TimeOfDay.read_of_written h]

theorem holdsTime_blank_append (hfront : allBlank front = true) :
    HoldsTime t (front ++ cs) ↔ HoldsTime t cs := by
  rw [HoldsTime, Text.trim_blank_append hfront, ← HoldsTime]

theorem holdsStart_none_iff : HoldsStart none start cs ↔ HoldsTime start cs := by
  constructor
  · rintro ⟨front, back, rfl, hfront, hback⟩
    rw [Weekday.read_eq_ok_none_iff, String.toList_ofList] at hfront
    rwa [holdsTime_blank_append hfront]
  · intro h
    exact ⟨[], cs, rfl, rfl, h⟩

/-! ### Expressions put together from texts -/

theorem exists_spells_day_iff :
    (∃ t : Tokens, t.LaidIn cs ∧ t.Spells ⟨day, none⟩) ↔ Weekday.read (String.ofList cs) = .ok day := by
  rw [Weekday.read_eq_ok_iff]
  constructor
  · rintro ⟨⟨name, start, stop⟩, hlaid, hname, hstart, hstop⟩
    obtain ⟨hfront, hgap, hback, hpair⟩ := hlaid
    rename_i front gap pair back
    cases hstart
    cases hpair
    have hblank : allBlank (gap ++ back) = true := by simp [Text.allBlank_append, hgap, hback]
    exact ⟨front, name, gap ++ back, by simp, hfront, hblank, hname⟩
  · rintro ⟨front, name, back, rfl, hfront, hback, hname⟩
    have hnil : allBlank [] = true := rfl
    have hlaid := Tokens.LaidIn.intro (t := ⟨name, none, none⟩) hfront hback hnil .absent
    rw [List.append_nil, List.append_nil] at hlaid
    exact ⟨⟨name, none, none⟩, hlaid, hname, .none, .none⟩

theorem exists_spells_pair_iff {span : Span} :
    (∃ t : Tokens, t.LaidIn cs ∧ t.Spells ⟨day, some span⟩) ↔
      ∃ front back, cs = front ++ '-' :: back ∧ HoldsStart day span.start front ∧
        HoldsTime span.stop back := by
  constructor
  · rintro ⟨⟨name, start, stop⟩, hlaid, hname, hstart, hstop⟩
    obtain ⟨hfront, hgap, hback, hpair⟩ := hlaid
    rename_i front gap pair back
    cases hpair with
    | absent => cases hstart
    | @present start stop before after hbefore hafter =>
        cases hstart with
        | some hstart =>
            cases hstop with
            | some hstop =>
                refine ⟨front ++ name.getD [] ++ gap ++ (start ++ before), after ++ stop ++ back,
                  by simp, ?_, holdsTime_iff.mpr ⟨after, stop, back, rfl, hafter, hback, hstop⟩⟩
                exact ⟨_, _, rfl, Weekday.read_eq_ok_iff.mpr ⟨front, name, gap, rfl, hfront, hgap, hname⟩,
                  holdsTime_iff.mpr ⟨[], start, before, rfl, rfl, hbefore, hstart⟩⟩
  · rintro ⟨_, _, rfl, ⟨_, _, rfl, hday, hstart⟩, hstop⟩
    obtain ⟨front, name, gap, rfl, hfront, hgap, hname⟩ := Weekday.read_eq_ok_iff.mp hday
    obtain ⟨gap', start, before, rfl, hgap', hbefore, hstart⟩ := holdsTime_iff.mp hstart
    obtain ⟨after, stop, back, rfl, hafter, hback, hstop⟩ := holdsTime_iff.mp hstop
    have hgaps : allBlank (gap ++ gap') = true := by simp [Text.allBlank_append, hgap, hgap']
    have hlaid := Tokens.LaidIn.intro (t := ⟨name, some start, some stop⟩) hfront hgaps hback
      (.present hbefore hafter)
    refine ⟨⟨name, some start, some stop⟩, ?_, hname, .some hstart, .some hstop⟩
    simpa using hlaid

theorem dash_not_mem_of_holdsTime (h : HoldsTime t cs) : '-' ∉ cs := by
  intro hmem
  rcases TimeOfDay.digit_or_colon_of_mem_written h _ (Text.mem_trim (by decide) hmem) with hdigit | hcolon
  · exact absurd hdigit (by decide)
  · exact absurd hcolon (by decide)

theorem dash_not_mem_of_readWeekday (h : Weekday.read (String.ofList cs) = .ok day) : '-' ∉ cs := by
  intro hmem
  have htrim := Text.mem_trim (c := '-') (by decide) hmem
  cases day with
  | none =>
      rw [Weekday.read_eq_ok_none_iff, String.toList_ofList] at h
      rw [Text.trim_eq_nil_iff.mpr h] at htrim
      cases htrim
  | some d =>
      rw [Weekday.read_eq_ok_some_iff, String.toList_ofList] at h
      have hsmall := Tokens.isSmall_of_mem_names (Tokens.isDayToken_of_isName h) _
        (List.mem_map_of_mem htrim)
      exact absurd hsmall (by decide)

theorem dash_not_mem_of_holdsStart (h : HoldsStart day start cs) : '-' ∉ cs := by
  obtain ⟨front, back, rfl, hday, hstart⟩ := h
  rw [List.mem_append, not_or]
  exact ⟨dash_not_mem_of_readWeekday hday, dash_not_mem_of_holdsTime hstart⟩

/-! ### The blank between a weekday and a start -/

theorem exists_of_append_eq_append_cons {as bs : List Char} {c : Char}
    (h : as ++ bs = front ++ c :: back) :
    (∃ ds, front = as ++ ds ∧ bs = ds ++ c :: back) ∨ ∃ ds, as = front ++ c :: ds ∧ back = ds ++ bs := by
  rcases List.append_eq_append_iff.mp h with ⟨ds, rfl, hbs⟩ | ⟨ds, rfl, hcons⟩
  · exact Or.inl ⟨ds, rfl, hbs⟩
  · rcases List.cons_eq_append_iff.mp hcons with ⟨rfl, hbs⟩ | ⟨ds, rfl, hback⟩
    · exact Or.inl ⟨[], by simp, hbs⟩
    · exact Or.inr ⟨ds, rfl, hback⟩

theorem holdsStart_of_sides (hday : Weekday.read (String.ofList front) = .ok day)
    (hstart : HoldsTime start back) :
    Weekday.read (String.ofList front) = .ok day ∧ day.isSome ∧ HoldsTime start back ∨
      allBlank front = true ∧ HoldsStart day start back := by
  cases day with
  | none =>
      rw [Weekday.read_eq_ok_none_iff, String.toList_ofList] at hday
      exact Or.inr ⟨hday, holdsStart_none_iff.mpr hstart⟩
  | some d => exact Or.inl ⟨hday, rfl, hstart⟩

/-- Around a blank, the weekday and the start stand on one side each or together on one side. -/
theorem holdsStart_append_iff :
    HoldsStart day start (front ++ ' ' :: back) ↔
      (Weekday.read (String.ofList front) = .ok day ∧ day.isSome ∧ HoldsTime start back ∨
        allBlank front = true ∧ HoldsStart day start back) ∨
          allBlank back = true ∧ HoldsStart day start front := by
  have hblank : allBlank [' '] = true := rfl
  constructor
  · rintro ⟨as, bs, heq, hday, hstart⟩
    rcases exists_of_append_eq_append_cons heq.symm with ⟨ds, rfl, rfl⟩ | ⟨ds, rfl, rfl⟩
    · -- The blank comes after the weekday.
      rcases Text.trim_append_cons rfl (TimeOfDay.not_isBlank_of_mem_written hstart) with
        ⟨hds, htrim⟩ | ⟨hback, htrim⟩
      · rw [HoldsTime, htrim] at hstart
        exact Or.inl (holdsStart_of_sides
          ((Weekday.read_congr (Text.trim_append_blank hds as)).mpr hday) hstart)
      · rw [HoldsTime, htrim] at hstart
        exact Or.inr ⟨hback, as, ds, rfl, hday, hstart⟩
    · -- The blank comes before the start.
      rcases Text.trim_append_cons rfl (Weekday.not_isBlank_of_read hday) with
        ⟨hfront, htrim⟩ | ⟨hds, htrim⟩
      · exact Or.inl (Or.inr ⟨hfront, ds, bs, rfl, (Weekday.read_congr htrim).mp hday, hstart⟩)
      · exact Or.inl (holdsStart_of_sides ((Weekday.read_congr htrim).mp hday)
          ((holdsTime_blank_append hds).mpr hstart))
  · rintro ((⟨hday, -, hstart⟩ | ⟨hfront, as, bs, rfl, hday, hstart⟩) | ⟨hback, as, bs, rfl, hday, hstart⟩)
    · exact ⟨front, ' ' :: back, rfl, hday, (holdsTime_blank_append hblank).mpr hstart⟩
    · have hsame : trim (front ++ ' ' :: as) = trim as := by
        rw [Text.trim_blank_append hfront, Text.trim_cons_of_isBlank rfl]
      exact ⟨front ++ ' ' :: as, bs, by simp, (Weekday.read_congr hsame).mpr hday, hstart⟩
    · have hsame : trim (bs ++ ' ' :: back) = trim bs :=
        Text.trim_append_blank (Text.allBlank_cons_iff.mpr ⟨rfl, hback⟩) bs
      refine ⟨as, bs ++ ' ' :: back, by simp, hday, ?_⟩
      rwa [HoldsTime, hsame]

namespace Expression

variable {text : String} {w : Window}

theorem read_eq_accepted_day_iff :
    read text = .accepted ⟨day, none⟩ ↔ day.isSome ∧ Weekday.read text = .ok day := by
  have hne : (⟨day, none⟩ : Window) ≠ .empty ↔ day.isSome = true := by
    cases day <;> simp [Window.empty]
  rw [read_eq_accepted_iff, exists_spells_day_iff, hne, String.ofList_toList]

theorem read_eq_accepted_pair_iff {span : Span} :
    read text = .accepted ⟨day, some span⟩ ↔ ∃ front back, text.toList = front ++ '-' :: back ∧
      HoldsStart day span.start front ∧ HoldsTime span.stop back := by
  have hne : (⟨day, some span⟩ : Window) ≠ .empty := by simp [Window.empty]
  rw [read_eq_accepted_iff, exists_spells_pair_iff]
  exact and_iff_right hne

/-- No letter of the weekday in an expression is a lookalike. -/
def IsPlain (text : String) : Prop :=
  ∀ t : Tokens, t.LaidIn text.toList → t.WellFormed →
    ∀ name, t.weekday = some name → ∀ c ∈ name, ¬Tokens.IsLookalike c

theorem isPlain_iff : IsPlain text ↔ ∀ e, read text ≠ .faulty e := by
  constructor
  · intro h e hread
    obtain ⟨t, hlaid, hform, name, hname, ⟨c, hc, hlook⟩, -⟩ := read_eq_faulty_iff.mp hread
    exact h t hlaid hform name hname c hc hlook
  · intro h t hlaid hform name hname c hc hlook
    exact h _ (read_eq_faulty_iff.mpr ⟨t, hlaid, hform, name, hname, ⟨c, hc, hlook⟩, rfl⟩)

end Expression

namespace Window

variable {text weekday first last : String} {w : Window}

theorem ofExpression_text_iff :
    ofExpression (.text text) = .ok w ↔ Expression.read text = .accepted w := by
  simp only [ofExpression, Expression.readValue]
  cases Expression.read text <;> simp

theorem ofTimeStrings_text :
    ofTimeStrings (.text first) (.text last) = ofExpression (.text (first ++ "-" ++ last)) :=
  rfl

theorem ofStrings_text :
    ofStrings (.text weekday) (.text first) (.text last) =
      ofExpression (.text (weekday ++ " " ++ first ++ "-" ++ last)) :=
  rfl

theorem ofTimeStrings_eq_ok_iff :
    ofTimeStrings (.text first) (.text last) = .ok w ↔ ∃ span, w.span = some span ∧
      HoldsStart w.weekday span.start first.toList ∧ HoldsTime span.stop last.toList := by
  have htext : (first ++ "-" ++ last).toList = first.toList ++ '-' :: last.toList := by
    simp
  rw [ofTimeStrings_text, ofExpression_text_iff]
  rcases w with ⟨day, _ | span⟩
  · simp only [Expression.read_eq_accepted_day_iff, reduceCtorEq, false_and, exists_false,
      iff_false]
    rintro ⟨-, hday⟩
    rw [← String.ofList_toList (s := first ++ "-" ++ last)] at hday
    exact dash_not_mem_of_readWeekday hday (by simp [htext])
  · simp only [Expression.read_eq_accepted_pair_iff, htext, Option.some.injEq,
      exists_eq_left']
    constructor
    · rintro ⟨front, back, heq, hstart, hstop⟩
      -- Neither part has a dash in it, so the dash is the one that was put in.
      obtain ⟨rfl, -, rfl⟩ := (List.append_cons_inj_of_notMem (dash_not_mem_of_holdsStart hstart)
        (dash_not_mem_of_holdsTime hstop)).mp heq.symm
      exact ⟨hstart, hstop⟩
    · rintro ⟨hstart, hstop⟩
      exact ⟨_, _, rfl, hstart, hstop⟩

theorem ofStrings_eq_ofTimeStrings :
    ofStrings (.text weekday) (.text first) (.text last) =
      ofTimeStrings (.text (weekday ++ " " ++ first)) (.text last) :=
  rfl

theorem ofStrings_eq_ok_iff :
    ofStrings (.text weekday) (.text first) (.text last) = .ok w ↔ ∃ span, w.span = some span ∧
      (Weekday.read weekday = .ok w.weekday ∧ w.weekday.isSome ∧ HoldsTime span.start first.toList ∨
        allBlank weekday.toList = true ∧ HoldsStart w.weekday span.start first.toList ∨
          allBlank first.toList = true ∧ HoldsStart w.weekday span.start weekday.toList) ∧
        HoldsTime span.stop last.toList := by
  have htext : (weekday ++ " " ++ first).toList = weekday.toList ++ ' ' :: first.toList := by
    simp
  rw [ofStrings_eq_ofTimeStrings, ofTimeStrings_eq_ok_iff]
  simp only [htext, holdsStart_append_iff, String.ofList_toList, or_assoc]

theorem ofExpression_eq_ok_iff :
    ofExpression (.text text) = .ok w ↔
      (w.span = none ∧ w.weekday.isSome ∧ Weekday.read text = .ok w.weekday) ∨
        ∃ first last, text = first ++ "-" ++ last ∧ ofTimeStrings (.text first) (.text last) = .ok w := by
  constructor
  · intro h
    rw [ofExpression_text_iff] at h
    rcases w with ⟨day, _ | span⟩
    · exact Or.inl ⟨rfl, Expression.read_eq_accepted_day_iff.mp h⟩
    · obtain ⟨front, back, htext, hstart, hstop⟩ := Expression.read_eq_accepted_pair_iff.mp h
      refine Or.inr ⟨String.ofList front, String.ofList back, ?_, ?_⟩
      · rw [← String.toList_inj, htext]
        simp
      · rw [ofTimeStrings_eq_ok_iff, String.toList_ofList, String.toList_ofList]
        exact ⟨span, rfl, hstart, hstop⟩
  · rintro (⟨hspan, hday⟩ | ⟨first, last, rfl, h⟩)
    · rcases w with ⟨day, span⟩
      cases hspan
      exact ofExpression_text_iff.mpr (Expression.read_eq_accepted_day_iff.mpr hday)
    · exact h

/-- A window is made, or the error shows the rejected expression. -/
def MadeOrRejected (made : Except InputError Window) (text : String) : Prop :=
  (∃ w, made = .ok w) ∨ made = .error (.rejected (.text text))

theorem madeOrRejected_ofExpression (h : Expression.IsPlain text) :
    MadeOrRejected (ofExpression (.text text)) text := by
  have hfault := Expression.isPlain_iff.mp h
  simp only [MadeOrRejected, ofExpression, Expression.readValue]
  cases hread : Expression.read text with
  | accepted w => exact Or.inl ⟨w, rfl⟩
  | rejected why => exact Or.inr rfl
  | faulty e => exact absurd hread (hfault e)

/-- Texts for a weekday and two times make a window whose stop is read from the last text. The weekday and the
start are read from the texts for them, or one of these is blank and they stand together in the other one. A
text for a weekday makes a window without times, or it has a dash in it and makes what the texts around the dash
make as times. Other texts are rejected as the expression that they are put together to, unless its weekday is
spelled with a lookalike. -/
theorem strings_make_windows :
    (∀ weekday first last w, ofStrings (.text weekday) (.text first) (.text last) = .ok w ↔
      ∃ span, w.span = some span ∧
        (Weekday.read weekday = .ok w.weekday ∧ w.weekday.isSome ∧ HoldsTime span.start first.toList ∨
          allBlank weekday.toList = true ∧ HoldsStart w.weekday span.start first.toList ∨
            allBlank first.toList = true ∧ HoldsStart w.weekday span.start weekday.toList) ∧
          HoldsTime span.stop last.toList) ∧
    (∀ text w, ofExpression (.text text) = .ok w ↔
      (w.span = none ∧ w.weekday.isSome ∧ Weekday.read text = .ok w.weekday) ∨
        ∃ first last, text = first ++ "-" ++ last ∧ ofTimeStrings (.text first) (.text last) = .ok w) ∧
    (∀ first last w, ofTimeStrings (.text first) (.text last) = .ok w ↔ ∃ span, w.span = some span ∧
      HoldsStart w.weekday span.start first.toList ∧ HoldsTime span.stop last.toList) ∧
    (∀ text t, HoldsTime t text.toList → TimeOfDay.read text = .ok (some t)) ∧
    (∀ cs t, HoldsStart none t cs ↔ HoldsTime t cs) ∧
    (∀ weekday first last, Expression.IsPlain (weekday ++ " " ++ first ++ "-" ++ last) →
      MadeOrRejected (ofStrings (.text weekday) (.text first) (.text last))
        (weekday ++ " " ++ first ++ "-" ++ last)) ∧
    (∀ text, Expression.IsPlain text → MadeOrRejected (ofExpression (.text text)) text) ∧
    ∀ first last, Expression.IsPlain (first ++ "-" ++ last) →
      MadeOrRejected (ofTimeStrings (.text first) (.text last)) (first ++ "-" ++ last) := by
  refine ⟨?_, ?_, ?_, ?_, ?_, ?_, ?_, ?_⟩
  · exact fun _ _ _ _ => ofStrings_eq_ok_iff
  · exact fun _ _ => ofExpression_eq_ok_iff
  · exact fun _ _ _ => ofTimeStrings_eq_ok_iff
  · exact fun _ _ => read_of_holdsTime
  · exact fun _ _ => holdsStart_none_iff
  · exact fun _ _ _ => madeOrRejected_ofExpression
  · exact fun _ => madeOrRejected_ofExpression
  · exact fun _ _ => madeOrRejected_ofExpression

def sixToSeven : Span := ⟨⟨21600000000, by decide⟩, ⟨25200000000, by decide⟩, by decide⟩

/-- Monday from six to seven out of two texts, its stop read from the second of them, and times that are the
wrong way round. -/
theorem strings_make_monday_morning :
    (ofTimeStrings (.text "Mon 6:00") (.text "7:00") = .ok ⟨some .monday, some sixToSeven⟩ ∧
      TimeOfDay.read "7:00" = .ok (some sixToSeven.stop)) ∧
    ofStrings (.text "Sun") (.text "13:00") (.text "12:00") =
      .error (.rejected (.text "Sun 13:00-12:00")) := by
  obtain ⟨-, -, htimes, hread, -, hrejected, -, -⟩ := strings_make_windows
  constructor
  · have hmade : ofTimeStrings (.text "Mon 6:00") (.text "7:00") =
        .ok ⟨some .monday, some sixToSeven⟩ :=
      ofTimeStrings_text.trans (ofExpression_text_iff.mpr (by decide))
    obtain ⟨span, hspan, -, hstop⟩ := (htimes _ _ _).mp hmade
    cases hspan
    exact ⟨hmade, hread _ _ hstop⟩
  · have horder : Expression.read "Sun 13:00-12:00" = .rejected .order := by decide
    have hplain : Expression.IsPlain "Sun 13:00-12:00" := by
      rw [Expression.isPlain_iff, horder]
      exact fun e => Expression.Reading.noConfusion
    rcases hrejected "Sun" "13:00" "12:00" hplain with ⟨w, hmade⟩ | herror
    · rw [ofStrings_text, ofExpression_text_iff] at hmade
      exact absurd (horder.symm.trans hmade) Expression.Reading.noConfusion
    · exact herror

/-- A window without a weekday from texts for a weekday and times, one with times from a text for a weekday, and
one with a weekday from texts for times. -/
theorem exists_strings_astray :
    (¬∀ weekday first last w, ofStrings (.text weekday) (.text first) (.text last) = .ok w →
      (w.weekday.isSome ∧ Weekday.read weekday = .ok w.weekday) ∧ ∃ span, w.span = some span ∧
        TimeOfDay.read first = .ok (some span.start) ∧ TimeOfDay.read last = .ok (some span.stop)) ∧
    (¬∀ text w, ofExpression (.text text) = .ok w → w.weekday.isSome ∧ w.span = none) ∧
    ¬∀ first last w, ofTimeStrings (.text first) (.text last) = .ok w →
      w.weekday = none ∧ ∃ span, w.span = some span ∧
        TimeOfDay.read first = .ok (some span.start) ∧ TimeOfDay.read last = .ok (some span.stop) := by
  refine ⟨?_, ?_, ?_⟩
  · intro h
    have hmade : ofStrings (.text "") (.text "6:00") (.text "7:00") = .ok ⟨none, some sixToSeven⟩ :=
      ofStrings_text.trans (ofExpression_text_iff.mpr (by decide))
    exact absurd (h _ _ _ _ hmade).1.1 (by decide)
  · intro h
    have hmade : ofExpression (.text "Mon 6:00-7:00") = .ok ⟨some .monday, some sixToSeven⟩ :=
      ofExpression_text_iff.mpr (by decide)
    exact absurd (h _ _ hmade).2 (by decide)
  · intro h
    have hmade : ofTimeStrings (.text "Mon 6:00") (.text "7:00") =
        .ok ⟨some .monday, some sixToSeven⟩ :=
      ofTimeStrings_text.trans (ofExpression_text_iff.mpr (by decide))
    exact absurd (h _ _ _ hmade).1 (by decide)

end Window

end Timetable
