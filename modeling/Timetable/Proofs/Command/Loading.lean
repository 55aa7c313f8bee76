import Timetable.Command
import Timetable.Proofs.Config.File
import Timetable.Proofs.Config.Sets

/-!
The parts of commands. Main statements: the schedules of a configuration that a command works with are
valid, the trouble of each part is of its own kind, and a row of instants is read one by one.
-/
namespace Timetable

namespace Command

variable {f : Folder} {now : Instant} {c : Config} {t : Trouble}

/-! ### Configurations -/

theorem valid_of_loadConfig {config : Option String} (h : loadConfig f config = .ok c) :
    Config.Valid c.schedules := by
  cases config with
  | some path => exact Config.valid_of_ofEntry (mapError_eq_ok_iff.mp h)
  | none =>
      rw [loadConfig] at h
      split at h
      · cases h
        exact Config.valid_nil
      · exact Config.valid_of_ofEntry (mapError_eq_ok_iff.mp h)

theorem nonempty_some {text : String} (h : text ≠ "") : nonempty (some text) = some text := by
  simp [nonempty, h]

theorem instantOf_text {text : String} (h : text ≠ "") (c : Config) (now : Instant) :
    instantOf c now (some text) = (Instant.read text c.timezone now).mapError .stamp := by
  rw [instantOf, nonempty_some h]

theorem instantsOf_cons (c : Config) (now : Instant) (text : String) (texts : List String) :
    instantsOf c now (text :: texts) =
      (match Instant.read text c.timezone now with
        | .error e => .error (.stamp e)
        | .ok i => (instantsOf c now texts).map (i :: ·)) := by
  rw [instantsOf]
  cases Instant.read text c.timezone now with
  | error e => rfl
  | ok i => cases instantsOf c now texts <;> rfl

/-- The instants of texts are there exactly when each text is read as one. -/
theorem instantsOf_eq_ok_iff {texts : List String} {is : List Instant} :
    instantsOf c now texts = .ok is ↔
      List.Forall₂ (fun text i => Instant.read text c.timezone now = .ok i) texts is := by
  induction texts generalizing is with
  | nil => simp [instantsOf, eq_comm]
  | cons text texts ih =>
      rw [instantsOf_cons, List.forall₂_cons_left_iff]
      cases hread : Instant.read text c.timezone now with
      | error e => simp
      | ok i =>
          simp only [map_eq_ok_iff, ih, Except.ok.injEq]
          constructor
          · rintro ⟨rest, hrest, rfl⟩
            exact ⟨i, rest, rfl, hrest, rfl⟩
          · rintro ⟨_, rest, rfl, hrest, rfl⟩
            exact ⟨rest, hrest, rfl⟩

theorem exists_stamp_of_instantsOf {texts : List String} (h : instantsOf c now texts = .error t) :
    ∃ text ∈ texts, ∃ e, Instant.read text c.timezone now = .error e ∧ t = .stamp e := by
  induction texts with
  | nil => cases h
  | cons text texts ih =>
      rw [instantsOf_cons] at h
      cases hread : Instant.read text c.timezone now with
      | error e =>
          rw [hread] at h
          cases h
          exact ⟨text, List.mem_cons_self, e, hread, rfl⟩
      | ok i =>
          simp only [hread, map_eq_error_iff] at h
          obtain ⟨other, hmem, e, he, ht⟩ := ih h
          exact ⟨other, List.mem_cons_of_mem _ hmem, e, he, ht⟩

/-! ### What commands are about -/

variable {selection : Selection} {config : Option String}

theorem checkInput_eq_ok_iff {instant : Option String} {s : WindowSet} {i : Instant} :
    checkInput f now selection instant config = .ok (s, i) ↔
      ∃ c, loadConfig f config = .ok c ∧ resolve c selection = .ok s ∧
        instantOf c now instant = .ok i := by
  simp [checkInput, bind_eq_ok_iff, pure, Except.pure]

theorem filterInput_eq_ok_iff {instants : List String} {s : WindowSet} {is : List Instant} :
    filterInput f now selection instants config = .ok (s, is) ↔
      ∃ c, loadConfig f config = .ok c ∧ resolve c selection = .ok s ∧
        instantsOf c now instants = .ok is := by
  simp [filterInput, bind_eq_ok_iff, pure, Except.pure]

theorem schedulesInput_eq_ok_iff {instant : Option String} {k : Checker} {i : Instant} :
    schedulesInput f now instant config = .ok (k, i) ↔
      ∃ c, loadConfig f config = .ok c ∧ Checker.ofConfig c = .ok k ∧
        instantOf c now instant = .ok i := by
  simp [schedulesInput, bind_eq_ok_iff, mapError_eq_ok_iff, pure, Except.pure]

theorem checkInput_of_instantOf {instant : Option String} {s : WindowSet}
    (hload : loadConfig f config = .ok c) (hresolve : resolve c selection = .ok s)
    (h : instantOf c now instant = .error t) :
    checkInput f now selection instant config = .error t := by
  simp [checkInput, bind_eq_error_iff, hload, hresolve, h]

theorem filterInput_of_instantsOf {instants : List String} {s : WindowSet}
    (hload : loadConfig f config = .ok c) (hresolve : resolve c selection = .ok s)
    (h : instantsOf c now instants = .error t) :
    filterInput f now selection instants config = .error t := by
  simp [filterInput, bind_eq_error_iff, hload, hresolve, h]

def emptyFolder : Folder := ⟨"/home", [], "/opt", .missing⟩

def officeFolder : Folder :=
  ⟨"/home", [("config.yaml",
    .file "schedules:\n  Office: [Mon 09:00-17:00, Tue]\n  Weekend: [Sat]\n")], "/opt", .missing⟩

/-- A host of few words. -/
def plainHost : Host := ⟨fun _ => "", fun _ => false⟩

def office : Config :=
  ⟨"UTC", "WARNING", [("Office", ["Mon 09:00-17:00", "Tue"]), ("Weekend", ["Sat"])]⟩

/-- The first instant of a year. -/
def newYear : Instant :=
  ⟨⟨2025, 1, 1, by decide, by decide, by decide⟩, .midnight, some .utc⟩

theorem loadConfig_officeFolder : loadConfig officeFolder none = .ok office :=
  eq_ok_of_toOption (by decide +kernel)

end Command

end Timetable
