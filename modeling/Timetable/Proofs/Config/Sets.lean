import Timetable.Checker
import Timetable.Proofs.Config.Validity

/-!
The sets of windows of a configuration. Main statement: each schedule of an accepted configuration
has a set, with one window for each of its expressions.
-/
namespace Timetable.Config

/-- A set stands under the name of a schedule and has the windows of its expressions in order. -/
def IsSetOf (s : Schedule) (t : String × WindowSet) : Prop :=
  t.1 = s.1 ∧ List.Forall₂ (fun text w => Expression.read text = .accepted w) s.2 t.2.windows

theorem setOf_eq_ok_iff {texts : List String} {s : WindowSet} :
    setOf texts = .ok s ↔
      List.Forall₂ (fun text w => Expression.read text = .accepted w) texts s.windows := by
  rw [← WindowSet.readItems_eq_accepted_iff, setOf]
  split
  · next t ht => simp [ht]
  · next e he => simp [he]
  · next _ _ hrejected => split <;> simp [hrejected]

section Schedules

variable {schedules : List Schedule} {sets : List (String × WindowSet)}

theorem setsOf_eq_ok_iff : setsOf schedules = .ok sets ↔ List.Forall₂ IsSetOf schedules sets := by
  induction schedules generalizing sets with
  | nil => simp [setsOf, eq_comm]
  | cons s schedules ih =>
      rw [setsOf, List.forall₂_cons_left_iff]
      constructor
      · intro h
        split at h
        · cases h
        · next t ht =>
            obtain ⟨rest, hrest, rfl⟩ := map_eq_ok_iff.mp h
            exact ⟨(s.1, t), rest, ⟨rfl, setOf_eq_ok_iff.mp ht⟩, ih.mp hrest, rfl⟩
      · rintro ⟨t, rest, ⟨hname, hwindows⟩, hrest, rfl⟩
        rw [setOf_eq_ok_iff.mpr hwindows, ih.mpr hrest, ← hname]
        rfl

theorem names_of_forall₂_isSetOf (h : List.Forall₂ IsSetOf schedules sets) :
    sets.map (·.1) = schedules.map (·.1) := by
  induction h with
  | nil => rfl
  | cons hset _ ih => rw [List.map_cons, List.map_cons, hset.1, ih]

theorem exists_isSetOf {s : Schedule} (h : ∀ text ∈ s.2, ∃ w, Expression.read text = .accepted w) :
    ∃ t, IsSetOf s t := by
  obtain ⟨windows, hwindows⟩ := exists_forall₂_of_forall h
  exact ⟨(s.1, ⟨windows⟩), rfl, hwindows⟩

theorem Valid.exists_sets (h : Valid schedules) : ∃ sets, List.Forall₂ IsSetOf schedules sets :=
  exists_forall₂_of_forall fun s hs => exists_isSetOf (h.accepted s hs)

end Schedules

theorem exists_checker {c : Config} (h : Valid c.schedules) :
    ∃ sets, List.Forall₂ IsSetOf c.schedules sets ∧ c.scheduleSets = .ok sets ∧
      Checker.ofConfig c = .ok ⟨sets, c.timezone⟩ := by
  obtain ⟨sets, hsets⟩ := h.exists_sets
  have hscheduleSets : c.scheduleSets = .ok sets := setsOf_eq_ok_iff.mpr hsets
  refine ⟨sets, hsets, hscheduleSets, ?_⟩
  rw [Checker.ofConfig, hscheduleSets]
  rfl

/-! ### Looking schedules up -/

section Lookup

variable {c : Config} {sets : List (String × WindowSet)} {name : String}

theorem schedule_of_find?_eq_none (h : c.find? name = none) :
    c.schedule name = .error (.unknown ⟨name⟩) := by
  rw [schedule, h]

theorem exists_set_of_find?_eq_some (hsets : List.Forall₂ IsSetOf c.schedules sets) {s : Schedule}
    (h : c.find? name = some s) : ∃ t ∈ sets, t.1 = s.1 ∧ c.schedule name = .ok t.2 := by
  obtain ⟨t, ht, hname, hwindows⟩ := exists_mem_of_forall₂ hsets (List.mem_of_find?_eq_some h)
  refine ⟨t, ht, hname, ?_⟩
  rw [schedule, h]
  exact setOf_eq_ok_iff.mpr hwindows

end Lookup

/-- An accepted configuration has one set for each schedule, in order. Looking up a name gives one of
these sets or finds the name unknown, and there is a checker with the names of the schedules. -/
theorem accepted_schedules_have_sets {entries : List (Value × Value)} {c : Config}
    (h : ofEntries entries = .ok c) :
    ∃ sets, (c.scheduleSets = .ok sets ∧ List.Forall₂ IsSetOf c.schedules sets ∧
        sets.map (·.1) = c.schedules.map (·.1) ∧ (c.schedules.map (·.1)).Nodup) ∧
      (∀ name, (∃ t ∈ sets, c.schedule name = .ok t.2) ∨
        c.schedule name = .error (.unknown ⟨name⟩)) ∧
      ∃ k, Checker.ofConfig c = .ok k ∧ k.names = c.schedules.map (·.1) := by
  have hvalid := valid_of_ofEntries h
  obtain ⟨sets, hsets, hscheduleSets, hchecker⟩ := exists_checker hvalid
  have hnames := names_of_forall₂_isSetOf hsets
  refine ⟨sets, ⟨hscheduleSets, hsets, hnames, hvalid.distinct.nodup_names⟩, ?_,
    ⟨sets, c.timezone⟩, hchecker, hnames⟩
  intro name
  cases hfind : c.find? name with
  | none => exact Or.inr (schedule_of_find?_eq_none hfind)
  | some s =>
      obtain ⟨t, ht, -, hschedule⟩ := exists_set_of_find?_eq_some hsets hfind
      exact Or.inl ⟨t, ht, hschedule⟩

/-- Data with two schedules, one of them without expressions. -/
def streetEntries : List (Value × Value) :=
  [(.text "schedules", .map
    [(.text "ΟΔΟΣ", .list [.text " mon9:00-17:00", .text "Sat"]), (.text "Weekend", .tuple [])])]

def street : Config :=
  ⟨"UTC", "WARNING", [("ΟΔΟΣ", [" mon9:00-17:00", "Sat"]), ("Weekend", [])]⟩

theorem ofEntries_streetEntries : ofEntries streetEntries = .ok street := by
  have hsome : (ofEntries streetEntries).toOption = some street := by decide +kernel
  cases h : ofEntries streetEntries with
  | ok c =>
      rw [h] at hsome
      exact congrArg Except.ok (Option.some.inj hsome)
  | error e =>
      rw [h] at hsome
      cases hsome

theorem street_schedules_have_sets :
    ofEntries streetEntries = .ok street ∧
      (∃ sets, street.scheduleSets = .ok sets ∧ List.Forall₂ IsSetOf street.schedules sets) ∧
      ∃ k, Checker.ofConfig street = .ok k ∧ k.names = ["ΟΔΟΣ", "Weekend"] := by
  obtain ⟨sets, ⟨hsets, hforall, -⟩, -, hchecker⟩ :=
    accepted_schedules_have_sets ofEntries_streetEntries
  exact ⟨ofEntries_streetEntries, ⟨sets, hsets, hforall⟩, hchecker⟩

end Timetable.Config
