import Timetable.Proofs.Config.Names
import Timetable.Proofs.WindowSet.Items

/-!
What the checks of a configuration guarantee. Main statement: the schedules of a configuration that
is accepted have names that differ, letter case aside, and hold accepted expressions only.
-/
namespace Timetable.Config

open Expression (Reading)

/-- Schedules as the checks leave them. -/
structure Valid (schedules : List Schedule) : Prop where
  distinct : DistinctNames schedules
  accepted : ∀ s ∈ schedules, ∀ text ∈ s.2, ∃ w, Expression.read text = .accepted w

/-- The expressions of a schedule for which there is a reason not to accept them. -/
def invalidTexts (s : Schedule) : List String :=
  s.2.filter fun text => (Expression.read text).isRejected

/-- The schedules that have such expressions, each with all of them. -/
def problemsOf (schedules : List Schedule) : List (String × List String) :=
  (schedules.map fun s => (s.1, invalidTexts s)).filter fun p => !p.2.isEmpty

section Problems

variable {seen : List String} {schedules : List Schedule} {problems : List (String × List String)}

theorem rejectedExpressions_eq_ok_iff {s : Schedule} {rejected : List String} :
    rejectedExpressions s.2 = .ok rejected ↔
      (∀ text ∈ s.2, ∀ e, Expression.read text ≠ .faulty e) ∧ rejected = invalidTexts s :=
  WindowSet.rejectedItems_eq_ok_iff

theorem problemsOf_cons (s : Schedule) :
    problemsOf (s :: schedules) =
      if (invalidTexts s).isEmpty then problemsOf schedules
      else (s.1, invalidTexts s) :: problemsOf schedules := by
  rw [problemsOf, List.map_cons, List.filter_cons]
  cases (invalidTexts s).isEmpty <;> rfl

/-- What the checks have to find out about the first schedule and about the others. -/
theorem collectProblems_cons_eq_ok_iff {s : Schedule} :
    collectProblems seen (s :: schedules) = .ok problems ↔
      Text.lower s.1 ∉ seen ∧ ∃ rejected, rejectedExpressions s.2 = .ok rejected ∧
        ∃ more, collectProblems (Text.lower s.1 :: seen) schedules = .ok more ∧
          problems = if rejected.isEmpty then more else (s.1, rejected) :: more := by
  rw [collectProblems]
  by_cases hseen : Text.lower s.1 ∈ seen
  · simp [hseen]
  · rw [if_neg (by simpa using hseen)]
    cases hrejected : rejectedExpressions s.2 with
    | error e => simp
    | ok rejected =>
        cases hmore : collectProblems (Text.lower s.1 :: seen) schedules with
        | error e => simp
        | ok more =>
            simp only [hseen, not_false_eq_true, Except.ok.injEq, exists_eq_left', true_and]
            exact eq_comm

/-- The checks go through exactly when no name repeats an earlier one, or one of those seen before,
and no expression leads to a fault. What they give are the expressions that are not accepted. -/
theorem collectProblems_eq_ok_iff :
    collectProblems seen schedules = .ok problems ↔
      (DistinctNames schedules ∧ ∀ s ∈ schedules, Text.lower s.1 ∉ seen) ∧
        (∀ s ∈ schedules, ∀ text ∈ s.2, ∀ e, Expression.read text ≠ .faulty e) ∧
          problems = problemsOf schedules := by
  induction schedules generalizing seen problems with
  | nil => simp [collectProblems, DistinctNames, problemsOf, eq_comm]
  | cons s schedules ih =>
      simp only [collectProblems_cons_eq_ok_iff, rejectedExpressions_eq_ok_iff, ih,
        distinctNames_cons_iff, List.forall_mem_cons, problemsOf_cons]
      -- A later name differs from the first one because that is among those seen by then.
      simp only [List.mem_cons, not_or]
      constructor
      · rintro ⟨hseen, _, ⟨hfault, rfl⟩, _, ⟨⟨hdistinct, hothers⟩, hfaults, rfl⟩, rfl⟩
        exact ⟨⟨⟨fun t ht => (hothers t ht).1, hdistinct⟩, hseen, fun t ht => (hothers t ht).2⟩,
          ⟨hfault, hfaults⟩, rfl⟩
      · rintro ⟨⟨⟨hothers, hdistinct⟩, hseen, hrest⟩, ⟨hfault, hfaults⟩, rfl⟩
        exact ⟨hseen, _, ⟨hfault, rfl⟩, _,
          ⟨⟨hdistinct, fun t ht => ⟨hothers t ht, hrest t ht⟩⟩, hfaults, rfl⟩, rfl⟩

theorem problemsOf_eq_nil_iff :
    problemsOf schedules = [] ↔
      ∀ s ∈ schedules, ∀ text ∈ s.2, (Expression.read text).isRejected = false := by
  simp only [problemsOf, List.filter_eq_nil_iff, List.forall_mem_map, Bool.not_eq_true',
    Bool.not_eq_false, List.isEmpty_iff, invalidTexts, Bool.not_eq_true]

/-- The checks find nothing exactly when the schedules are valid. -/
theorem collectProblems_eq_ok_nil_iff : collectProblems [] schedules = .ok [] ↔ Valid schedules := by
  rw [collectProblems_eq_ok_iff, eq_comm, problemsOf_eq_nil_iff]
  constructor
  · rintro ⟨⟨hdistinct, -⟩, hfaults, hrejected⟩
    refine ⟨hdistinct, fun s hs text htext => ?_⟩
    exact Reading.exists_accepted_of (hfaults s hs text htext) (hrejected s hs text htext)
  · rintro ⟨hdistinct, haccepted⟩
    refine ⟨⟨hdistinct, by simp⟩, ?_, ?_⟩
    · intro s hs text htext e
      obtain ⟨w, hw⟩ := haccepted s hs text htext
      simp [hw]
    · intro s hs text htext
      obtain ⟨w, hw⟩ := haccepted s hs text htext
      simp [hw, Reading.isRejected]

end Problems

/-- Schedules pass the checks exactly when they are valid, and they are kept as they are. -/
theorem checkSchedules_eq_ok_iff {schedules checked : List Schedule} :
    checkSchedules schedules = .ok checked ↔ checked = schedules ∧ Valid schedules := by
  rw [← collectProblems_eq_ok_nil_iff, checkSchedules]
  split
  · next e he => simp [he]
  · next hnil => simp [hnil, eq_comm]
  · next problems hne hproblems =>
      have hsome : problems ≠ [] := hne
      simp [hproblems, hsome]

/-! ### Fields -/

theorem readField_eq_ok_iff {α : Type} {name : String} {default a : α}
    {kind : Value → Except (List Issue) α} {check : α → Except Refusal α}
    {entries : List (Value × Value)} :
    readField name default kind check entries = .ok a ↔
      (field? name entries = none ∧ a = default) ∨
        ∃ v b, field? name entries = some v ∧ kind v = .ok b ∧ check b = .ok a := by
  rw [readField]
  cases hfield : field? name entries with
  | none => simp [eq_comm]
  | some v =>
      cases hkind : kind v with
      | error issues => simp [hkind]
      | ok b => cases hcheck : check b <;> simp [hkind, hcheck]

/-- Data are accepted exactly when all keys are texts and each field is accepted on its own. -/
theorem ofEntries_eq_ok_iff {entries : List (Value × Value)} {c : Config} :
    ofEntries entries = .ok c ↔
      (∀ e ∈ entries, ∃ s, e.1 = .text s) ∧
        readField "timezone" default.timezone (textAt [.name "timezone"]) checkZone entries =
          .ok c.timezone ∧
        readField "log_level" default.logLevel (textAt [.name "log_level"]) checkLevel entries =
          .ok c.logLevel ∧
        readField "schedules" default.schedules schedulesOf checkSchedules entries =
          .ok c.schedules := by
  rcases c with ⟨z, l, ss⟩
  rw [ofEntries]
  cases hnamed : entries.all _ with
  | false =>
      have hkeys : ¬ ∀ e ∈ entries, ∃ s, e.1 = .text s := by
        intro htexts
        obtain ⟨e, he, hkey⟩ := List.all_eq_false.mp hnamed
        obtain ⟨s, hs⟩ := htexts e he
        simp [hs] at hkey
      rw [iff_false_intro hkeys, false_and]
      simp
  | true =>
      have hkeys : ∀ e ∈ entries, ∃ s, e.1 = .text s := by
        intro e he
        have hkey := List.all_eq_true.mp hnamed e he
        split at hkey
        · next s hs => exact ⟨s, hs⟩
        · cases hkey
      rw [iff_true_intro hkeys, true_and]
      cases readField "timezone" default.timezone (textAt [.name "timezone"]) checkZone entries with
      | error _ => simp
      | ok _ =>
          cases readField "log_level" default.logLevel (textAt [.name "log_level"]) checkLevel
            entries with
          | error _ => simp
          | ok _ =>
              cases readField "schedules" default.schedules schedulesOf checkSchedules entries <;>
                simp

theorem valid_nil : Valid [] :=
  ⟨List.nodup_nil, by simp⟩

theorem valid_of_ofEntries {entries : List (Value × Value)} {c : Config}
    (h : ofEntries entries = .ok c) : Valid c.schedules := by
  obtain ⟨-, -, -, hschedules⟩ := ofEntries_eq_ok_iff.mp h
  rcases readField_eq_ok_iff.mp hschedules with ⟨-, hdefault⟩ | ⟨v, ss, -, -, hcheck⟩
  · rw [hdefault]
    exact valid_nil
  · obtain ⟨rfl, hvalid⟩ := checkSchedules_eq_ok_iff.mp hcheck
    exact hvalid

end Timetable.Config
