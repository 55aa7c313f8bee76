import Timetable.Proofs.Config.Validity

/-!
What the check of schedules reports. Main statement: schedules whose expressions lead to no fault pass as they
are, or the first repeated name is reported and nothing else, or all expressions that are not accepted are.
-/
namespace Timetable.Config

/-- A name is the first in a row of schedules that repeats an earlier one or one of those seen before. -/
def IsFirstRepeat (seen : List String) (schedules : List Schedule) (name : String) : Prop :=
  ∃ front texts back, schedules = front ++ (name, texts) :: back ∧
    (DistinctNames front ∧ ∀ s ∈ front, Text.lower s.1 ∉ seen) ∧
      (Text.lower name ∈ seen ∨ ∃ s ∈ front, Text.lower s.1 = Text.lower name)

/-- The schedules have expressions that can be read, be they accepted or not. -/
def Readable (schedules : List Schedule) : Prop :=
  ∀ s ∈ schedules, ∀ text ∈ s.2, ∀ e, Expression.read text ≠ .faulty e

variable {seen : List String} {schedules : List Schedule} {name : String} {e : Refusal}

theorem isFirstRepeat_head {texts : List String} (h : Text.lower name ∈ seen) :
    IsFirstRepeat seen ((name, texts) :: schedules) name :=
  ⟨[], texts, schedules, rfl, ⟨List.nodup_nil, by simp⟩, Or.inl h⟩

theorem isFirstRepeat_cons {s : Schedule} (hs : Text.lower s.1 ∉ seen)
    (h : IsFirstRepeat (Text.lower s.1 :: seen) schedules name) :
    IsFirstRepeat seen (s :: schedules) name := by
  obtain ⟨front, texts, back, rfl, ⟨hdistinct, hfront⟩, hrepeat⟩ := h
  simp only [List.mem_cons, not_or] at hfront
  refine ⟨s :: front, texts, back, rfl, ⟨?_, ?_⟩, ?_⟩
  · rw [distinctNames_cons_iff]
    exact ⟨fun t ht => (hfront t ht).1, hdistinct⟩
  · rw [List.forall_mem_cons]
    exact ⟨hs, fun t ht => (hfront t ht).2⟩
  · rcases hrepeat with hmem | ⟨t, ht, hname⟩
    · rcases List.mem_cons.mp hmem with hname | hseen
      · exact Or.inr ⟨s, List.mem_cons_self, hname.symm⟩
      · exact Or.inl hseen
    · exact Or.inr ⟨t, List.mem_cons_of_mem s ht, hname⟩

/-- Without a fault only a repeated name ends the search, whatever expressions stand around it. -/
theorem isFirstRepeat_of_collectProblems (hreadable : Readable schedules)
    (h : collectProblems seen schedules = .error e) :
    ∃ name, e = .duplicate name ∧ IsFirstRepeat seen schedules name := by
  induction schedules generalizing seen with
  | nil => cases h
  | cons s schedules ih =>
      obtain ⟨name, texts⟩ := s
      obtain ⟨htexts, hothers⟩ := List.forall_mem_cons.mp hreadable
      rw [collectProblems] at h
      split at h
      · next hseen =>
          cases h
          exact ⟨name, rfl, isFirstRepeat_head (by simpa using hseen)⟩
      · next hseen =>
          have hrejected : rejectedExpressions texts = .ok (invalidTexts (name, texts)) :=
            rejectedExpressions_eq_ok_iff.mpr ⟨htexts, rfl⟩
          rw [hrejected] at h
          simp only at h
          split at h
          · next e' hrest =>
              cases h
              obtain ⟨name', rfl, hrepeat⟩ := ih hothers hrest
              exact ⟨name', rfl, isFirstRepeat_cons (by simpa using hseen) hrepeat⟩
          · cases h

theorem collectProblems_of_distinctNames (hreadable : Readable schedules)
    (h : DistinctNames schedules) : collectProblems [] schedules = .ok (problemsOf schedules) :=
  collectProblems_eq_ok_iff.mpr ⟨⟨h, by simp⟩, hreadable, rfl⟩

theorem exists_isFirstRepeat (hreadable : Readable schedules) (h : ¬DistinctNames schedules) :
    ∃ name, collectProblems [] schedules = .error (.duplicate name) ∧
      IsFirstRepeat [] schedules name := by
  cases hcollect : collectProblems [] schedules with
  | ok problems => exact absurd (collectProblems_eq_ok_iff.mp hcollect).1.1 h
  | error e =>
      obtain ⟨name, rfl, hrepeat⟩ := isFirstRepeat_of_collectProblems hreadable hcollect
      exact ⟨name, rfl, hrepeat⟩

theorem checkSchedules_of_error (h : collectProblems [] schedules = .error e) :
    checkSchedules schedules = .error e := by
  rw [checkSchedules, h]

theorem checkSchedules_of_problems {problems : List (String × List String)}
    (h : collectProblems [] schedules = .ok problems) (hne : problems ≠ []) :
    checkSchedules schedules = .error (.expressions problems) := by
  obtain ⟨p, others, rfl⟩ := List.exists_cons_of_ne_nil hne
  rw [checkSchedules, h]

/-- Schedules whose expressions lead to no fault pass the check, and are kept as they are, exactly when their
names differ, letter case aside, and all expressions are accepted. If a name repeats an earlier one, the
first that does is reported, whatever the expressions are. If none does, the report has exactly the schedules
with an expression that is not accepted, in order, each with all of those. -/
theorem schedules_checked {schedules : List Schedule} (h : Readable schedules) :
    (∀ checked, checkSchedules schedules = .ok checked ↔ checked = schedules ∧
      DistinctNames schedules ∧
        ∀ s ∈ schedules, ∀ text ∈ s.2, ∃ w, Expression.read text = .accepted w) ∧
    (¬DistinctNames schedules → ∃ front name texts back,
      schedules = front ++ (name, texts) :: back ∧ DistinctNames front ∧
        (∃ s ∈ front, Text.lower s.1 = Text.lower name) ∧
          checkSchedules schedules = .error (.duplicate name)) ∧
    (DistinctNames schedules →
      (¬∀ s ∈ schedules, ∀ text ∈ s.2, ∃ w, Expression.read text = .accepted w) →
        checkSchedules schedules = .error (.expressions (problemsOf schedules))) := by
  refine ⟨?_, ?_, ?_⟩
  · intro checked
    rw [checkSchedules_eq_ok_iff]
    constructor
    · rintro ⟨rfl, hvalid⟩
      exact ⟨rfl, hvalid.distinct, hvalid.accepted⟩
    · rintro ⟨rfl, hdistinct, haccepted⟩
      exact ⟨rfl, hdistinct, haccepted⟩
  · intro hrepeated
    obtain ⟨name, hcollect, front, texts, back, heq, ⟨hdistinct, -⟩, hrepeat⟩ :=
      exists_isFirstRepeat h hrepeated
    refine ⟨front, name, texts, back, heq, hdistinct, ?_, checkSchedules_of_error hcollect⟩
    simpa using hrepeat
  · intro hdistinct hnot
    have hcollect := collectProblems_of_distinctNames h hdistinct
    refine checkSchedules_of_problems hcollect ?_
    intro hnil
    rw [hnil, collectProblems_eq_ok_nil_iff] at hcollect
    exact hnot hcollect.accepted

/-- Schedules of which the third has the name of the second; expressions around them are not accepted. -/
def weekendTwice : List Schedule :=
  [("late", ["soon"]), ("Weekend", ["Sat"]), ("weekend", ["Sun"]), ("LATE", ["17:00-9:00"])]

/-- Schedules of which the first and the last have expressions that are not accepted. -/
def lateWeek : List Schedule :=
  [("late", ["soon", "Mon", "soon"]), ("Weekend", ["Sat"]), ("early", ["17:00-9:00"])]

theorem late_week_checked :
    (Readable weekendTwice ∧ ∃ front name texts back, weekendTwice = front ++ (name, texts) :: back ∧
      DistinctNames front ∧ (∃ s ∈ front, Text.lower s.1 = Text.lower name) ∧
        checkSchedules weekendTwice = .error (.duplicate name)) ∧
    Readable lateWeek ∧ checkSchedules lateWeek =
      .error (.expressions [("late", ["soon", "soon"]), ("early", ["17:00-9:00"])]) := by
  have hsoon : Expression.read "soon" = .rejected .grammar := by decide
  have horder : Expression.read "17:00-9:00" = .rejected .order := by decide
  have hmonday : Expression.read "Mon" = .accepted ⟨some .monday, none⟩ := by decide
  have hsaturday : Expression.read "Sat" = .accepted ⟨some .saturday, none⟩ := by decide
  have hsunday : Expression.read "Sun" = .accepted ⟨some .sunday, none⟩ := by decide
  have htwice : Readable weekendTwice := by
    simp [Readable, weekendTwice, hsoon, horder, hsaturday, hsunday]
  have hlate : Readable lateWeek := by
    simp [Readable, lateWeek, hsoon, horder, hmonday, hsaturday]
  refine ⟨⟨htwice, ?_⟩, hlate, ?_⟩
  · have hrepeated : ¬(weekendTwice.map fun t => Text.lower t.1).Nodup := by decide +kernel
    exact (schedules_checked htwice).2.1 hrepeated
  · have hdistinct : (lateWeek.map fun t => Text.lower t.1).Nodup := by decide +kernel
    have hnot : ¬∀ s ∈ lateWeek, ∀ text ∈ s.2, ∃ w, Expression.read text = .accepted w := by
      simp [lateWeek, hsoon]
    have hproblems : problemsOf lateWeek =
        [("late", ["soon", "soon"]), ("early", ["17:00-9:00"])] := by
      decide
    rw [(schedules_checked hlate).2.2 hdistinct hnot, hproblems]

/-- The report as a text. -/
example : Refusal.message (.expressions [("late", ["soon", "soon"]), ("early", ["17:00-9:00"])]) =
    "Invalid range expression(s) in schedules - late: 'soon', 'soon'; early: '17:00-9:00'" := by
  decide +kernel

end Timetable.Config
