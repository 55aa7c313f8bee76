import Timetable.Proofs.Value
import Timetable.Window.Fields
import Timetable.Window.Strict

/-!
The fields of windows. Main statement: values of any kind make a window exactly when they fit its
fields, else the error tells what the first check finds wrong, or that the value found wrong cannot be
shown; and a window, whatever it was made of, is made of its own fields again.
-/
namespace Timetable

namespace Window

variable {weekday start stop : Value} {w : Window} {e : FieldError}

/-! ### Single fields -/

/-- A value stands for a weekday: for none, or for the one whose place in the week it equals. -/
inductive IsDayField : Value → Option Weekday → Prop where
  | absent : IsDayField .null none
  | day {v : Value} {d : Weekday} (h : v.EqualsInt d.index) : IsDayField v (some d)

/-- Two values stand for a span: for none, or for the one between two times of day, in whatever form
these are given. -/
inductive AreTimeFields : Value → Value → Option Span → Prop where
  | absent : AreTimeFields .null .null none
  | span (s : Span) (form form' : ClockForm) :
      AreTimeFields (.clock s.start form) (.clock s.stop form') (some s)

theorem isAbsent_iff {v : Value} : isAbsent v = true ↔ v = .null := by
  cases v <;> simp [isAbsent]

theorem isAbsent_bne_iff :
    (isAbsent start != isAbsent stop) = true ↔ ¬(start = .null ↔ stop = .null) := by
  rw [bne_iff_ne, ne_eq, Bool.eq_iff_iff, isAbsent_iff, isAbsent_iff]

theorem weekdayField_eq_ok_iff {v : Value} {day : Option Weekday} :
    weekdayField v = .ok day ↔ IsDayField v day := by
  constructor
  · intro h
    unfold weekdayField at h
    split at h
    · cases h
      exact .absent
    · split at h
      · next d hd =>
        cases h
        exact .day (Value.weekday?_eq_some_iff.mp hd)
      · cases h
  · rintro (_ | ⟨h⟩)
    · rfl
    · have hday := Value.weekday?_eq_some_iff.mpr h
      unfold weekdayField
      split
      · cases h
      · rw [hday]

theorem weekdayField_eq_error_iff {v : Value} :
    weekdayField v = .error e ↔ (∀ day, ¬IsDayField v day) ∧ e = .showing .weekday v := by
  have herror {e : FieldError} (h : weekdayField v = .error e) : e = .showing .weekday v := by
    unfold weekdayField at h
    split at h
    · cases h
    · split at h
      · cases h
      · exact (Except.error.inj h).symm
  constructor
  · intro h
    refine ⟨fun day hday => ?_, herror h⟩
    rw [weekdayField_eq_ok_iff.mpr hday] at h
    cases h
  · rintro ⟨hnone, rfl⟩
    cases h : weekdayField v with
    | ok day => exact absurd (weekdayField_eq_ok_iff.mp h) (hnone day)
    | error e => rw [herror h]

theorem timeField_eq_ok_iff {v : Value} {t : TimeOfDay} :
    timeField v = .ok t ↔ ∃ form, v = .clock t form := by
  cases v <;> simp [timeField]

theorem timeField_eq_error_iff {v : Value} :
    timeField v = .error e ↔ (∀ t form, v ≠ .clock t form) ∧ e = .showing (.time v.kind) v := by
  cases v <;> simp [timeField, eq_comm]

/-! ### Errors -/

/-- What an error tells of a value: it shows the value, or else that a number in it is too long to be
shown. -/
inductive Tells (error : String → FieldError) (v : Value) : FieldError → Prop where
  | shown (h : v.hasLongNumber = false) : Tells error v (error v.display)
  | longNumber (h : v.hasLongNumber = true) : Tells error v .longNumber

theorem tells_showing (error : String → FieldError) (v : Value) : Tells error v (.showing error v) := by
  rw [FieldError.showing, Value.shown?]
  cases h : v.hasLongNumber with
  | false => exact .shown h
  | true => exact .longNumber h

theorem Tells.isValidation {error : String → FieldError} {v : Value} (h : Tells error v e)
    (herror : ∀ shown, (error shown).isValidation = true) (hshort : v.hasLongNumber = false) :
    e.isValidation = true := by
  cases h with
  | shown => exact herror _
  | longNumber hlong =>
      rw [hshort] at hlong
      cases hlong

/-! ### All fields -/

/-- What is wrong with values that make no window. The pairing of the times is looked at first, then
the weekday, then the kinds of the times, and last their order. -/
inductive Misfit (weekday start stop : Value) : FieldError → Prop where
  | unpaired (h : ¬(start = .null ↔ stop = .null)) : Misfit weekday start stop (.window .unpaired)
  | weekday (hpaired : start = .null ↔ stop = .null) (h : ∀ day, ¬IsDayField weekday day)
      {e : FieldError} (htells : Tells .weekday weekday e) : Misfit weekday start stop e
  | start {day : Option Weekday} (hday : IsDayField weekday day) (hstart : start ≠ .null)
      (hstop : stop ≠ .null) (h : ∀ t form, start ≠ .clock t form) {e : FieldError}
      (htells : Tells (.time start.kind) start e) : Misfit weekday start stop e
  | stop {day : Option Weekday} (hday : IsDayField weekday day) (hstop : stop ≠ .null)
      {t : TimeOfDay} {form : ClockForm} (hstart : start = .clock t form)
      (h : ∀ t form, stop ≠ .clock t form) {e : FieldError}
      (htells : Tells (.time stop.kind) stop e) : Misfit weekday start stop e
  | order {day : Option Weekday} (hday : IsDayField weekday day) {s t : TimeOfDay}
      {form form' : ClockForm} (hstart : start = .clock s form) (hstop : stop = .clock t form')
      (h : ¬s < t) : Misfit weekday start stop (.window (.order s t))

theorem ofValues_of_unpaired (h : ¬(start = .null ↔ stop = .null)) :
    ofValues weekday start stop = .error (.window .unpaired) := by
  rw [ofValues, if_pos (isAbsent_bne_iff.mpr h)]

theorem ofValues_of_absent (weekday : Value) :
    ofValues weekday .null .null = (weekdayField weekday).map fun day => ⟨day, none⟩ := by
  simp only [ofValues, isAbsent]
  cases weekdayField weekday <;> rfl

theorem ofValues_of_present (hstart : start ≠ .null) (hstop : stop ≠ .null) (weekday : Value) :
    ofValues weekday start stop = (do
      let day ← weekdayField weekday
      let s ← timeField start
      let t ← timeField stop
      (make day (some s) (some t)).mapError .window) := by
  have hpaired : ¬(isAbsent start != isAbsent stop) = true := by
    rw [isAbsent_bne_iff]
    simp [hstart, hstop]
  rw [ofValues, if_neg hpaired]
  cases weekdayField weekday with
  | error e => rfl
  | ok day =>
      simp only [isAbsent_iff, hstart, if_false]
      cases timeField start with
      | error e => rfl
      | ok s => cases timeField stop <;> rfl

theorem make_eq_ok_iff {day : Option Weekday} {s t : TimeOfDay} :
    make day (some s) (some t) = .ok w ↔ ∃ h : s < t, w = ⟨day, some ⟨s, t, h⟩⟩ := by
  rw [make]
  split <;> simp_all [eq_comm]

theorem make_eq_error_iff {day : Option Weekday} {s t : TimeOfDay} {e : WindowError} :
    make day (some s) (some t) = .error e ↔ ¬s < t ∧ e = .order s t := by
  rw [make]
  split <;> simp_all [eq_comm]

/-- The window that values make, if they make one. -/
theorem ofValues_eq_ok_iff :
    ofValues weekday start stop = .ok w ↔
      IsDayField weekday w.weekday ∧ AreTimeFields start stop w.span := by
  obtain ⟨day, span⟩ := w
  by_cases hpaired : start = .null ↔ stop = .null
  · by_cases hstart : start = .null
    · obtain rfl := hstart
      obtain rfl := hpaired.mp rfl
      rw [ofValues_of_absent, map_eq_ok_iff]
      constructor
      · rintro ⟨_, hday, ⟨⟩⟩
        exact ⟨weekdayField_eq_ok_iff.mp hday, .absent⟩
      · rintro ⟨hday, ⟨⟩⟩
        exact ⟨day, weekdayField_eq_ok_iff.mpr hday, rfl⟩
    · have hstop := mt hpaired.mpr hstart
      rw [ofValues_of_present hstart hstop]
      simp only [bind_eq_ok_iff, mapError_eq_ok_iff, make_eq_ok_iff, weekdayField_eq_ok_iff,
        timeField_eq_ok_iff]
      constructor
      · rintro ⟨_, hday, s, ⟨form, rfl⟩, t, ⟨form', rfl⟩, h, ⟨⟩⟩
        exact ⟨hday, .span ⟨s, t, h⟩ form form'⟩
      · rintro ⟨hday, _ | ⟨s, form, form'⟩⟩
        · exact absurd rfl hstart
        · exact ⟨day, hday, s.start, ⟨form, rfl⟩, s.stop, ⟨form', rfl⟩, s.start_lt_stop, rfl⟩
  · rw [ofValues_of_unpaired hpaired]
    constructor
    · rintro ⟨⟩
    · rintro ⟨-, _ | ⟨s, form, form'⟩⟩ <;> simp at hpaired

/-- The error of values that make no window. -/
theorem misfit_of_ofValues (h : ofValues weekday start stop = .error e) :
    Misfit weekday start stop e := by
  by_cases hpaired : start = .null ↔ stop = .null
  · by_cases hstart : start = .null
    · obtain rfl := hstart
      obtain rfl := hpaired.mp rfl
      rw [ofValues_of_absent, map_eq_error_iff, weekdayField_eq_error_iff] at h
      obtain ⟨hday, rfl⟩ := h
      exact .weekday hpaired hday (tells_showing _ _)
    · have hstop := mt hpaired.mpr hstart
      rw [ofValues_of_present hstart hstop] at h
      simp only [bind_eq_error_iff, mapError_eq_error_iff, make_eq_error_iff,
        weekdayField_eq_ok_iff, weekdayField_eq_error_iff, timeField_eq_ok_iff,
        timeField_eq_error_iff] at h
      rcases h with ⟨hday, rfl⟩ | ⟨day, hday, ⟨hkind, rfl⟩ | ⟨s, ⟨form, hs⟩, ⟨hkind, rfl⟩ |
        ⟨t, ⟨form', ht⟩, _, ⟨horder, rfl⟩, rfl⟩⟩⟩
      · exact .weekday hpaired hday (tells_showing _ _)
      · exact .start hday hstart hstop hkind (tells_showing _ _)
      · exact .stop hday hstop hs hkind (tells_showing _ _)
      · exact .order hday hs ht horder
  · rw [ofValues_of_unpaired hpaired] at h
    cases h
    exact .unpaired hpaired

theorem Misfit.isValidation (h : Misfit weekday start stop e) (hweekday : weekday.hasLongNumber = false)
    (hstart : start.hasLongNumber = false) (hstop : stop.hasLongNumber = false) :
    e.isValidation = true := by
  cases h with
  | unpaired => rfl
  | weekday _ _ htells => exact htells.isValidation (fun _ => rfl) hweekday
  | start _ _ _ _ htells => exact htells.isValidation (fun _ => rfl) hstart
  | stop _ _ _ _ htells => exact htells.isValidation (fun _ => rfl) hstop
  | order => rfl

/-- Values fit the fields of a window: times come in pairs, the weekday is absent or equals a whole
number up to six, and times are times of day, the start before the end. -/
structure FieldsFit (weekday start stop : Value) : Prop where
  paired : start = .null ↔ stop = .null
  day : weekday = .null ∨ ∃ n : Int, (0 ≤ n ∧ n ≤ 6) ∧ weekday.EqualsInt n
  times : start = .null ∨ ∃ s form t form', start = .clock s form ∧ stop = .clock t form' ∧ s < t

theorem exists_isDayField_iff {v : Value} :
    (∃ day, IsDayField v day) ↔ v = .null ∨ ∃ n : Int, (0 ≤ n ∧ n ≤ 6) ∧ v.EqualsInt n := by
  constructor
  · rintro ⟨_, _ | ⟨h⟩⟩
    · exact Or.inl rfl
    · next d =>
      have hlt := d.index_lt
      exact Or.inr ⟨d.index, by omega, h⟩
  · rintro (rfl | ⟨n, ⟨hpos, hle⟩, hn⟩)
    · exact ⟨none, .absent⟩
    · obtain ⟨k, rfl⟩ := Int.eq_ofNat_of_zero_le hpos
      obtain ⟨d, hd⟩ := Weekday.exists_index_eq (n := k) (by omega)
      exact ⟨some d, .day (hd ▸ hn)⟩

theorem exists_areTimeFields_iff :
    (∃ span, AreTimeFields start stop span) ↔ (start = .null ↔ stop = .null) ∧
      (start = .null ∨ ∃ s form t form', start = .clock s form ∧ stop = .clock t form' ∧ s < t) := by
  constructor
  · rintro ⟨_, _ | ⟨s, form, form'⟩⟩
    · exact ⟨Iff.rfl, Or.inl rfl⟩
    · exact ⟨by simp, Or.inr ⟨_, _, _, _, rfl, rfl, s.start_lt_stop⟩⟩
  · rintro ⟨hpaired, rfl | ⟨s, form, t, form', rfl, rfl, h⟩⟩
    · obtain rfl := hpaired.mp rfl
      exact ⟨none, .absent⟩
    · exact ⟨some ⟨s, t, h⟩, .span ⟨s, t, h⟩ form form'⟩

theorem exists_ofValues_iff : (∃ w, ofValues weekday start stop = .ok w) ↔
    FieldsFit weekday start stop := by
  constructor
  · rintro ⟨w, hw⟩
    obtain ⟨hday, htimes⟩ := ofValues_eq_ok_iff.mp hw
    obtain ⟨hpaired, htimes⟩ := exists_areTimeFields_iff.mp ⟨_, htimes⟩
    exact ⟨hpaired, exists_isDayField_iff.mp ⟨_, hday⟩, htimes⟩
  · rintro ⟨hpaired, hday, htimes⟩
    obtain ⟨day, hday⟩ := exists_isDayField_iff.mpr hday
    obtain ⟨span, htimes⟩ := exists_areTimeFields_iff.mpr ⟨hpaired, htimes⟩
    exact ⟨⟨day, span⟩, ofValues_eq_ok_iff.mpr ⟨hday, htimes⟩⟩

/-! ### Windows of their own fields -/

/-- The ways in which a window is made of values. -/
inductive IsMade : Window → Prop where
  | values {weekday start stop : Value} {w : Window} (h : ofValues weekday start stop = .ok w) :
      IsMade w
  | weekday {v : Value} {w : Window} (h : ofWeekday v = .ok w) : IsMade w
  | times {start stop : Value} {w : Window} (h : ofTimes start stop = .ok w) : IsMade w
  | expression {v : Value} {w : Window} (h : ofExpression v = .ok w) : IsMade w
  | strings {weekday start stop : Value} {w : Window} (h : ofStrings weekday start stop = .ok w) :
      IsMade w
  | timeStrings {start stop : Value} {w : Window} (h : ofTimeStrings start stop = .ok w) : IsMade w
  | listed {v : Value} {s : WindowSet} (h : WindowSet.readValues v = .ok (.accepted s)) {w : Window}
      (hw : w ∈ s.windows) : IsMade w
  | gathered {v : Value} {s : WindowSet} (h : WindowSet.ofExpressions v = .ok s) {w : Window}
      (hw : w ∈ s.windows) : IsMade w

/-- Fields are proper: the weekday is absent or the place of a day in the week, and the times are
both absent or both plain times of day in order. -/
structure AreProper (fields : Value × Value × Value) : Prop where
  day : fields.1 = .null ∨ ∃ d : Weekday, fields.1 = .int d.index
  times : fields.2 = (.null, .null) ∨
    ∃ s t : TimeOfDay, fields.2 = (.clock s .long, .clock t .long) ∧ s < t

theorem areProper_fields (w : Window) : AreProper w.fields := by
  rcases w with ⟨_ | d, _ | s⟩
  · exact ⟨Or.inl rfl, Or.inl rfl⟩
  · exact ⟨Or.inl rfl, Or.inr ⟨_, _, rfl, s.start_lt_stop⟩⟩
  · exact ⟨Or.inr ⟨d, rfl⟩, Or.inl rfl⟩
  · exact ⟨Or.inr ⟨d, rfl⟩, Or.inr ⟨_, _, rfl, s.start_lt_stop⟩⟩

/-- A window is made of its own fields. -/
theorem ofValues_fields (w : Window) : ofValues w.fields.1 w.fields.2.1 w.fields.2.2 = .ok w := by
  rw [ofValues_eq_ok_iff]
  rcases w with ⟨_ | d, _ | s⟩
  · exact ⟨.absent, .absent⟩
  · exact ⟨.absent, .span s .long .long⟩
  · exact ⟨.day (.int _), .absent⟩
  · exact ⟨.day (.int _), .span s .long .long⟩

/-- Values of any kind either make a window or lead to an error. They make one exactly when they
fit, and it has the weekday and the span that they stand for; else the error is that of the first
check that fails, which is one about windows unless a number is too long to be shown. A window that is
made in any way has proper fields, which make the same window again. -/
theorem values_make_windows (weekday start stop : Value) :
    ((∃ w, ofValues weekday start stop = .ok w) ↔ FieldsFit weekday start stop) ∧
      (∀ w, ofValues weekday start stop = .ok w →
        IsDayField weekday w.weekday ∧ AreTimeFields start stop w.span) ∧
      (¬FieldsFit weekday start stop →
        ∃ e, ofValues weekday start stop = .error e ∧ Misfit weekday start stop e ∧
          (weekday.hasLongNumber = false → start.hasLongNumber = false → stop.hasLongNumber = false →
            e.isValidation = true)) ∧
      ∀ w, IsMade w →
        AreProper w.fields ∧ ofValues w.fields.1 w.fields.2.1 w.fields.2.2 = .ok w := by
  refine ⟨exists_ofValues_iff, fun w => ofValues_eq_ok_iff.mp, ?_, ?_⟩
  · intro hnot
    cases h : ofValues weekday start stop with
    | ok w => exact absurd (exists_ofValues_iff.mp ⟨w, h⟩) hnot
    | error e => exact ⟨e, rfl, misfit_of_ofValues h, (misfit_of_ofValues h).isValidation⟩
  · intro w _
    exact ⟨w.areProper_fields, w.ofValues_fields⟩

/-- The float 6.0 stands for Sunday, and times lose their zone. -/
theorem float_makes_sunday :
    ∃ w, ofValues (.float (Binary64.ofDecimal false 60 (-1)))
        (.clock ⟨32400000000, by decide⟩ .zoned) (.clock ⟨61200000000, by decide⟩ .short) = .ok w ∧
      w.weekday = some .sunday ∧ AreProper w.fields ∧
        ofValues w.fields.1 w.fields.2.1 w.fields.2.2 = .ok w := by
  have hsix : Value.EqualsInt (.float (Binary64.ofDecimal false 60 (-1))) 6 :=
    Value.toInt?_eq_some_iff.mp (by decide)
  obtain ⟨hfit, hfields, -, hmade⟩ := values_make_windows (.float (Binary64.ofDecimal false 60 (-1)))
    (.clock ⟨32400000000, by decide⟩ .zoned) (.clock ⟨61200000000, by decide⟩ .short)
  obtain ⟨w, hw⟩ := hfit.mpr
    ⟨by simp, Or.inr ⟨6, by decide, hsix⟩, Or.inr ⟨_, _, _, _, rfl, rfl, by decide⟩⟩
  have hday := weekdayField_eq_ok_iff.mpr (hfields w hw).1
  have hsunday : weekdayField (.float (Binary64.ofDecimal false 60 (-1))) = .ok (some .sunday) := rfl
  exact ⟨w, hw, Except.ok.inj (hday.symm.trans hsunday), hmade w (.values hw)⟩

/-- A number with too many digits to be shown is no weekday, and the error about that shows it. -/
theorem exists_error_without_validation :
    ¬∀ weekday start stop, (∃ w, ofValues weekday start stop = .ok w) ∨
      ∃ e, ofValues weekday start stop = .error e ∧ e.isValidation = true := by
  intro h
  have hnone : ∀ day, ¬IsDayField (.int Value.longNumber) day := by
    rintro _ (_ | ⟨hday⟩)
    next d =>
    have hnumber : (Value.longNumber : Int) = d.index :=
      Option.some.inj (Value.toInt?_eq_some_iff.mpr hday)
    have hlarge := Value.six_lt_longNumber
    have hsmall := d.index_lt
    omega
  have hlong : Value.hasLongNumber (.int Value.longNumber) = true := by
    rw [Value.hasLongNumber, Int.natAbs_natCast]
    exact Nat.ble_self_eq_true _
  have herror : ofValues (.int Value.longNumber) .null .null = .error .longNumber := by
    rw [ofValues_of_absent, weekdayField_eq_error_iff.mpr ⟨hnone, rfl⟩, FieldError.showing,
      Value.shown?, if_pos hlong]
    rfl
  rcases h (.int Value.longNumber) .null .null with ⟨w, hw⟩ | ⟨e, he, hvalid⟩
  · rw [herror] at hw
    cases hw
  · rw [herror] at he
    cases he
    cases hvalid

end Window

end Timetable
