import Mathlib.Data.List.Nodup
import Timetable.Config

/-!
Lists of things under names that differ, letter case aside. Main statement: the first thing whose
name is the same as a given one, letter case aside, is the only one.
-/
namespace Timetable

variable {α : Type} {things : List (String × α)}

theorem sameName_iff {a b : String} : sameName a b = true ↔ Text.lower a = Text.lower b := by
  simp [sameName]

/-- The names of things differ, letter case aside. -/
def DistinctNames (things : List (String × α)) : Prop :=
  (things.map fun t => Text.lower t.1).Nodup

theorem distinctNames_cons_iff {t : String × α} :
    DistinctNames (t :: things) ↔
      (∀ s ∈ things, Text.lower s.1 ≠ Text.lower t.1) ∧ DistinctNames things := by
  simp [DistinctNames]

theorem distinctNames_congr {β : Type} {others : List (String × β)}
    (h : others.map (·.1) = things.map (·.1)) : DistinctNames others ↔ DistinctNames things := by
  have hlower := congrArg (List.map Text.lower) h
  simp only [List.map_map] at hlower
  exact iff_of_eq (congrArg List.Nodup hlower)

namespace DistinctNames

theorem nodup_names (h : DistinctNames things) : (things.map (·.1)).Nodup := by
  have hlower : ((things.map (·.1)).map Text.lower).Nodup := by
    rw [List.map_map]
    exact h
  exact hlower.of_map

theorem eq_of_mem (h : DistinctNames things) {s t : String × α} (hs : s ∈ things)
    (ht : t ∈ things) (hname : Text.lower s.1 = Text.lower t.1) : s = t :=
  List.inj_on_of_nodup_map h hs ht hname

/-- The first thing that a search by name finds is the only one it can find. -/
theorem find?_eq_some_iff (h : DistinctNames things) {name : String} {t : String × α} :
    things.find? (fun t => sameName t.1 name) = some t ↔
      t ∈ things ∧ Text.lower t.1 = Text.lower name := by
  constructor
  · intro hfind
    exact ⟨List.mem_of_find?_eq_some hfind, sameName_iff.mp (by simpa using List.find?_some hfind)⟩
  · rintro ⟨ht, hname⟩
    cases hfind : things.find? (fun t => sameName t.1 name) with
    | none =>
        have hnot := List.find?_eq_none.mp hfind t ht
        exact absurd (sameName_iff.mpr hname) hnot
    | some s =>
        have hs := sameName_iff.mp (by simpa using List.find?_some hfind)
        rw [h.eq_of_mem (List.mem_of_find?_eq_some hfind) ht (hs.trans hname.symm)]

/-- The thing under a name, where letter case counts. -/
theorem lookup_of_mem (h : DistinctNames things) {name : String} {a : α}
    (hmem : (name, a) ∈ things) : things.lookup name = some a := by
  rw [List.lookup_eq_some_iff]
  obtain ⟨before, after, rfl⟩ := List.append_of_mem hmem
  refine ⟨before, after, rfl, ?_⟩
  intro t ht
  -- A thing of that name further to the front would make the name occur twice.
  have hnames := h.nodup_names
  rw [List.map_append, List.nodup_append] at hnames
  have hne : t.1 ≠ name := hnames.2.2 t.1 (List.mem_map_of_mem ht) name (by simp)
  simpa using hne.symm

end DistinctNames

theorem find?_sameName_eq_none_iff {name : String} :
    things.find? (fun t => sameName t.1 name) = none ↔
      ∀ t ∈ things, Text.lower t.1 ≠ Text.lower name := by
  simp only [List.find?_eq_none, sameName_iff, ne_eq]

theorem find?_sameName_congr {name name' : String} (h : Text.lower name = Text.lower name') :
    things.find? (fun t => sameName t.1 name) = things.find? (fun t => sameName t.1 name') := by
  simp only [sameName, h]

end Timetable
