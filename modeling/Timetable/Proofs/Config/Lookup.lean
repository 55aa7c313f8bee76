import Timetable.Proofs.Checker.Schedule
import Timetable.Proofs.Config.Sets
import Timetable.Proofs.Text.AsciiCase

/-!
Looking schedules up in a configuration and in a checker. Main statement: a configuration, the
checker built from it and the list of its sets agree on every name in every spelling.
-/
namespace Timetable.Config

variable {c : Config} {name : String}

theorem schedule_toOption (c : Config) (name : String) :
    (c.schedule name).toOption = (c.find? name).bind fun s => (setOf s.2).toOption := by
  rw [schedule]
  cases c.find? name <;> rfl

theorem find?_congr {name' : String} (h : Text.lower name' = Text.lower name) :
    c.find? name' = c.find? name :=
  find?_sameName_congr h

theorem findName?_eq_some_iff (h : Valid c.schedules) {found : String} :
    c.findName? name = some found ↔
      found ∈ c.schedules.map (·.1) ∧ Text.lower found = Text.lower name := by
  simp only [findName?, find?, Option.map_eq_some_iff, h.distinct.find?_eq_some_iff, List.mem_map]
  constructor
  · rintro ⟨s, ⟨hs, hname⟩, rfl⟩
    exact ⟨⟨s, hs, rfl⟩, hname⟩
  · rintro ⟨⟨s, hs, rfl⟩, hname⟩
    exact ⟨s, ⟨hs, hname⟩, rfl⟩

/-- Either no look-up finds a name, or all of them find it and give one set. -/
theorem lookup_cases {sets : List (String × WindowSet)} (hvalid : Valid c.schedules)
    (hsets : List.Forall₂ IsSetOf c.schedules sets) (name : String) :
    (c.findName? name = none ∧ c.schedule name = .error (.unknown ⟨name⟩) ∧
      Checker.schedule ⟨sets, c.timezone⟩ name = .error ⟨name⟩) ∨
    ∃ t ∈ sets, c.findName? name = some t.1 ∧ c.schedule name = .ok t.2 ∧
      Checker.schedule ⟨sets, c.timezone⟩ name = .ok t.2 := by
  have hnames := names_of_forall₂_isSetOf hsets
  cases hfind : c.find? name with
  | none =>
      refine Or.inl ⟨by rw [findName?, hfind]; rfl, schedule_of_find?_eq_none hfind, ?_⟩
      apply Checker.schedule_of_not_knows
      rw [Checker.knows, Checker.names, hnames, List.any_map, List.any_eq_false]
      exact List.find?_eq_none.mp hfind
  | some s =>
      obtain ⟨t, ht, hname, hschedule⟩ := exists_set_of_find?_eq_some hsets hfind
      refine Or.inr ⟨t, ht, by rw [findName?, hfind, hname]; rfl, hschedule, ?_⟩
      apply Checker.schedule_of_mem ((distinctNames_congr hnames).mpr hvalid.distinct) ht
      rw [hname]
      exact (hvalid.distinct.find?_eq_some_iff.mp hfind).2

/-- A configuration and its checker find the same names. What they give for a name is the set of the
one schedule whose name has the same lower case, and the case of ASCII letters does not matter. -/
theorem lookups_agree {entries : List (Value × Value)} {c : Config}
    (h : ofEntries entries = .ok c) :
    ∃ sets k, c.scheduleSets = .ok sets ∧ Checker.ofConfig c = .ok k ∧
      ∀ name,
        (c.findName? name = none ↔ c.schedule name = .error (.unknown ⟨name⟩)) ∧
        (c.findName? name = none ↔ k.schedule name = .error ⟨name⟩) ∧
        (∀ found, c.findName? name = some found →
          (∀ n, n ∈ c.schedules.map (·.1) ∧ Text.lower n = Text.lower name ↔ n = found) ∧
            ∃ s, c.schedule name = .ok s ∧ k.schedule name = .ok s ∧
              sets.lookup found = some s) ∧
        (name ∈ c.schedules.map (·.1) → c.findName? name = some name) ∧
        ∀ name', Text.SameButCase name' name →
          c.findName? name' = c.findName? name ∧
            (c.schedule name').toOption = (c.schedule name).toOption ∧
            (k.schedule name').toOption = (k.schedule name).toOption := by
  have hvalid := valid_of_ofEntries h
  obtain ⟨sets, hsets, hscheduleSets, hchecker⟩ := exists_checker hvalid
  have hdistinct : DistinctNames sets :=
    (distinctNames_congr (names_of_forall₂_isSetOf hsets)).mpr hvalid.distinct
  refine ⟨sets, _, hscheduleSets, hchecker, fun name => ?_⟩
  have hspelling : ∀ name', Text.SameButCase name' name →
      c.findName? name' = c.findName? name ∧
        (c.schedule name').toOption = (c.schedule name).toOption ∧
        (Checker.schedule ⟨sets, c.timezone⟩ name').toOption =
          (Checker.schedule ⟨sets, c.timezone⟩ name).toOption := by
    intro name' hsame
    have hlower := Text.lower_eq_of_sameButCase hsame
    rw [findName?, findName?, schedule_toOption, schedule_toOption, find?_congr hlower,
      Checker.schedule_toOption, Checker.schedule_toOption, Checker.find?_congr hlower]
    exact ⟨rfl, rfl, rfl⟩
  have hitself : name ∈ c.schedules.map (·.1) → c.findName? name = some name :=
    fun hmem => (findName?_eq_some_iff hvalid).mpr ⟨hmem, rfl⟩
  rcases lookup_cases hvalid hsets name with
    ⟨hfind, hschedule, hk⟩ | ⟨t, ht, hfind, hschedule, hk⟩
  · refine ⟨by simp [hfind, hschedule], by simp [hfind, hk], ?_, hitself, hspelling⟩
    intro found hfound
    rw [hfind] at hfound
    cases hfound
  · refine ⟨by simp [hfind, hschedule], by simp [hfind, hk], ?_, hitself, hspelling⟩
    intro found hfound
    obtain rfl : t.1 = found := Option.some.inj (hfind.symm.trans hfound)
    refine ⟨?_, t.2, hschedule, hk, hdistinct.lookup_of_mem ht⟩
    intro n
    rw [← findName?_eq_some_iff hvalid, hfind, Option.some.injEq]
    exact eq_comm

/-- The small sigma at the end of a word is found under the capital one, and only there. -/
theorem street_lookups_agree :
    ofEntries streetEntries = .ok street ∧
      ∃ sets k, street.scheduleSets = .ok sets ∧ Checker.ofConfig street = .ok k ∧
        (∃ s, street.schedule "οδος" = .ok s ∧ k.schedule "οδος" = .ok s ∧
          sets.lookup "ΟΔΟΣ" = some s) ∧
        k.schedule "οδοσ" = .error ⟨"οδοσ"⟩ ∧
        street.findName? "WEEKend" = street.findName? "Weekend" := by
  obtain ⟨sets, k, hsets, hk, hagree⟩ := lookups_agree ofEntries_streetEntries
  refine ⟨ofEntries_streetEntries, sets, k, hsets, hk, ?_, ?_, ?_⟩
  · exact ((hagree "οδος").2.2.1 "ΟΔΟΣ" (by decide +kernel)).2
  · exact (hagree "οδοσ").2.1.mp (by decide +kernel)
  · exact ((hagree "Weekend").2.2.2.2 "WEEKend" (by decide)).1

end Timetable.Config
