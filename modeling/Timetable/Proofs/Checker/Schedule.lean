import Timetable.Checker
import Timetable.Proofs.Config.Names

/-!
The set that a checker finds under a name. Main statement: a name is known exactly when a schedule
has it, letter case aside; for distinct names the set is that of the one schedule.
-/
namespace Timetable.Checker

/-- The checker has a schedule of that name, letter case aside. -/
def knows (k : Checker) (name : String) : Bool :=
  k.names.any fun n => sameName n name

variable {k : Checker} {name : String}

theorem knows_iff :
    k.knows name = true ↔ ∃ t ∈ k.schedules, Text.lower t.1 = Text.lower name := by
  simp [knows, names, sameName_iff]

theorem schedule_of_not_knows (h : k.knows name = false) : k.schedule name = .error ⟨name⟩ := by
  have hne : ∀ t ∈ k.schedules, Text.lower t.1 ≠ Text.lower name := by
    intro t ht hname
    rw [knows_iff.mpr ⟨t, ht, hname⟩] at h
    cases h
  rw [schedule, find?, find?_sameName_eq_none_iff.mpr hne]
  rfl

theorem exists_schedule_of_knows (h : k.knows name = true) : ∃ s, k.schedule name = .ok s := by
  obtain ⟨t, ht, hname⟩ := knows_iff.mp h
  rw [schedule, find?]
  cases hfind : k.schedules.find? (fun t => sameName t.1 name) with
  | some u => exact ⟨u.2, rfl⟩
  | none => exact absurd hname (find?_sameName_eq_none_iff.mp hfind t ht)

theorem schedule_of_mem (h : DistinctNames k.schedules) {t : String × WindowSet}
    (ht : t ∈ k.schedules) (hname : Text.lower t.1 = Text.lower name) :
    k.schedule name = .ok t.2 := by
  rw [schedule, find?, h.find?_eq_some_iff.mpr ⟨ht, hname⟩]
  rfl

theorem eq_of_schedule_eq_error {e : Config.UnknownSchedule} (h : k.schedule name = .error e) :
    e = ⟨name⟩ := by
  rw [schedule] at h
  split at h
  · cases h
  · cases h
    rfl

theorem schedule_toOption (k : Checker) (name : String) :
    (k.schedule name).toOption = k.find? name := by
  rw [schedule]
  cases k.find? name <;> rfl

theorem find?_congr {name' : String} (h : Text.lower name' = Text.lower name) :
    k.find? name' = k.find? name := by
  rw [find?, find?, find?_sameName_congr h]

end Timetable.Checker
