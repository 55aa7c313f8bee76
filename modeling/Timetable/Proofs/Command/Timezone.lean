import Timetable.Proofs.Command.Loading
import Timetable.Proofs.Stamp.Wall

/-!
What the time zone of a configuration decides. Main statement: apart from the current time, it decides a
verdict only at readings of the wall clock that the zone skips.
-/
namespace Timetable

theorem WindowSet.contains_congr {i j : Instant} (hdate : i.date = j.date) (htime : i.time = j.time)
    (s : WindowSet) : s.contains i = s.contains j := by
  have hwindow : ∀ w : Window, w.contains i = w.contains j := by
    intro w
    rw [Window.contains, Window.contains, Instant.weekday, Instant.weekday, hdate, htime]
  simp only [contains, hwindow]

namespace Command

open Reading (wall localWall? SkipAlike wall_read_eq_iff)

/-- The verdict of a check, if there is one. -/
def checkVerdict (input : Except Trouble (WindowSet × Instant)) : Option Bool :=
  input.toOption.map fun (s, i) => s.contains i

/-- The verdicts of a filter on its instants, if there are any. -/
def filterVerdicts (input : Except Trouble (WindowSet × List Instant)) : Option (List Bool) :=
  input.toOption.map fun (s, is) => is.map s.contains

variable {now : Instant} {c c' : Config} {text : String} {s : WindowSet}

theorem resolve_congr (h : c.schedules = c'.schedules) (selection : Selection) :
    resolve c selection = resolve c' selection := by
  simp only [resolve, Config.schedule, Config.find?, h]

/-- Instants that look the same on the wall clock get the same verdict. -/
theorem contains_of_wall_eq {r r' : Except StampError Instant} (h : wall r = wall r')
    (s : WindowSet) : r.toOption.map s.contains = r'.toOption.map s.contains := by
  cases r with
  | error e =>
      cases r' with
      | error e' => rfl
      | ok j => cases h
  | ok i =>
      cases r' with
      | error e' => cases h
      | ok j =>
          obtain ⟨hdate, htime⟩ := Prod.mk.inj (Option.some.inj h)
          exact congrArg some (s.contains_congr hdate htime)

theorem instantOf_map_contains (hne : text ≠ "")
    (h : wall (Instant.read text c.timezone now) = wall (Instant.read text c'.timezone now))
    (s : WindowSet) :
    (instantOf c now (some text)).toOption.map s.contains =
      (instantOf c' now (some text)).toOption.map s.contains := by
  have hread (c : Config) : (instantOf c now (some text)).toOption =
      (Instant.read text c.timezone now).toOption := by
    rw [instantOf_text hne]
    cases Instant.read text c.timezone now <;> rfl
  rw [hread, hread]
  exact contains_of_wall_eq h s

theorem instantsOf_map_contains {texts : List String}
    (h : ∀ text ∈ texts, wall (Instant.read text c.timezone now) =
      wall (Instant.read text c'.timezone now)) (s : WindowSet) :
    (instantsOf c now texts).toOption.map (·.map s.contains) =
      (instantsOf c' now texts).toOption.map (·.map s.contains) := by
  have hcons (i : Instant) (x : Except Trouble (List Instant)) :
      (x.map (i :: ·)).toOption.map (·.map s.contains) =
        (x.toOption.map (·.map s.contains)).map (s.contains i :: ·) := by
    cases x <;> rfl
  induction texts with
  | nil => rfl
  | cons text texts ih =>
      rw [List.forall_mem_cons] at h
      have hfirst := contains_of_wall_eq h.1 s
      rw [instantsOf_cons, instantsOf_cons]
      cases hread : Instant.read text c.timezone now with
      | error e =>
          rw [hread] at hfirst
          cases hread' : Instant.read text c'.timezone now with
          | error e' => rfl
          | ok j =>
              rw [hread'] at hfirst
              cases hfirst
      | ok i =>
          rw [hread] at hfirst
          cases hread' : Instant.read text c'.timezone now with
          | error e' =>
              rw [hread'] at hfirst
              cases hfirst
          | ok j =>
              rw [hread'] at hfirst
              have hsame : s.contains i = s.contains j := Option.some.inj hfirst
              simp only [hcons, ih h.2, hsame]

section Verdicts

variable {f f' : Folder} {config config' : Option String}

/-- Windows that are asked about some part of a command, for a configuration that is loaded. -/
theorem toOption_of_loadConfig {α β : Type} (hload : loadConfig f config = .ok c)
    (selection : Selection) (part : Config → Except Trouble α) (g : WindowSet → α → β) :
    (do
      let c ← loadConfig f config
      let s ← resolve c selection
      return (s, ← part c) : Except Trouble (WindowSet × α)).toOption.map (fun p => g p.1 p.2) =
        (resolve c selection).toOption.bind fun s => (part c).toOption.map (g s) := by
  rw [hload]
  cases hresolve : resolve c selection with
  | error t => simp [hresolve, bind, Except.bind, Except.toOption]
  | ok s =>
      cases hpart : part c <;>
        simp [hresolve, hpart, bind, Except.bind, pure, Except.pure, Except.toOption]

theorem checkVerdict_checkInput (hload : loadConfig f config = .ok c) (selection : Selection)
    (instant : Option String) :
    checkVerdict (checkInput f now selection instant config) =
      (resolve c selection).toOption.bind fun s =>
        (instantOf c now instant).toOption.map s.contains :=
  toOption_of_loadConfig hload selection (instantOf · now instant) WindowSet.contains

theorem filterVerdicts_filterInput (hload : loadConfig f config = .ok c) (selection : Selection)
    (instants : List String) :
    filterVerdicts (filterInput f now selection instants config) =
      (resolve c selection).toOption.bind fun s =>
        (instantsOf c now instants).toOption.map (·.map s.contains) :=
  toOption_of_loadConfig hload selection (instantsOf · now instants) fun s is => is.map s.contains

end Verdicts

/-- A text other than the one for the current time shows the same on the clocks of two time zones
exactly when no local reading is meant that the zones do not skip alike. Configurations that differ in
nothing that selects windows then give the same verdicts: `check` for such a text, and `filter` for a
list of such texts. -/
theorem timezone_matters_at_skips (now : Instant) {name name' : String} {z z' : Zone}
    (hz : Zone.find name = .ok z) (hz' : Zone.find name' = .ok z') :
    (∀ text, text ≠ "now" →
      (wall (Instant.read text name now) = wall (Instant.read text name' now) ↔
        ∀ d t, localWall? now.date text = some (d, t) → SkipAlike z z' d t)) ∧
    ∀ f f' config config' c c', loadConfig f config = .ok c → loadConfig f' config' = .ok c' →
      c.timezone = name → c'.timezone = name' → c.schedules = c'.schedules → ∀ selection,
        (∀ text, text ≠ "" →
          wall (Instant.read text name now) = wall (Instant.read text name' now) →
          checkVerdict (checkInput f now selection (some text) config) =
            checkVerdict (checkInput f' now selection (some text) config')) ∧
        ∀ texts : List String,
          (∀ text ∈ texts,
            wall (Instant.read text name now) = wall (Instant.read text name' now)) →
          filterVerdicts (filterInput f now selection texts config) =
            filterVerdicts (filterInput f' now selection texts config') := by
  refine ⟨fun text hnow => wall_read_eq_iff hnow hz hz', ?_⟩
  rintro f f' config config' c c' hload hload' rfl rfl hschedules selection
  have hresolve := resolve_congr hschedules selection
  constructor
  · intro text hne hsame
    rw [checkVerdict_checkInput hload, checkVerdict_checkInput hload', hresolve]
    simp only [instantOf_map_contains hne hsame]
  · intro texts hsame
    rw [filterVerdicts_filterInput hload, filterVerdicts_filterInput hload', hresolve]
    simp only [instantsOf_map_contains hsame]

theorem find_berlin : ∃ z, Zone.find "Europe/Berlin" = .ok z := by
  have hsome : (Zone.find "Europe/Berlin").toOption.isSome = true := by decide +kernel
  obtain ⟨z, hz⟩ := Option.isSome_iff_exists.mp hsome
  exact ⟨z, eq_ok_of_toOption hz⟩

theorem wall_read_berlin_ne :
    wall (Instant.read "2024-03-31 02:30" "Europe/Berlin" newYear) ≠
      wall (Instant.read "2024-03-31 02:30" "UTC" newYear) := by
  decide +kernel

/-- The night in which the clock of Berlin is put forward from two to three. -/
theorem timezone_matters_in_spring :
    ∃ z, Zone.find "Europe/Berlin" = .ok z ∧ ∃ d t,
      localWall? newYear.date "2024-03-31 02:30" = some (d, t) ∧ ¬SkipAlike z Zone.utc d t := by
  obtain ⟨z, hz⟩ := find_berlin
  have hutc : Zone.find "UTC" = .ok Zone.utc := rfl
  obtain ⟨hread, -⟩ := timezone_matters_at_skips newYear hz hutc
  have hnot := mt (hread "2024-03-31 02:30" (by decide)).mpr wall_read_berlin_ne
  simp only [not_forall] at hnot
  obtain ⟨d, t, hlocal, hskip⟩ := hnot
  exact ⟨z, hz, d, t, hlocal, hskip⟩

theorem exists_timezones_read_apart :
    ¬∀ text name name' z z' now, text ≠ "now" → Zone.find name = .ok z → Zone.find name' = .ok z' →
      wall (Instant.read text name now) = wall (Instant.read text name' now) := by
  intro h
  obtain ⟨z, hz⟩ := find_berlin
  exact wall_read_berlin_ne (h _ _ "UTC" z Zone.utc newYear (by decide) hz rfl)

end Command

end Timetable
