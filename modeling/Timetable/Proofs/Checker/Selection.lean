import Timetable.Proofs.Config.Lookup

/-!
Questions about many schedules or many instants, and the questions about one schedule at one instant
that they stand for. Main statement: a checker built from a configuration answers both alike.
-/
namespace Timetable

/-- The answer is yes. -/
def Turn.saysYes (t : Turn) : Bool :=
  match t.outcome with
  | .ok (.truth b) => b
  | _ => false

namespace Checker

variable {k : Checker} {clock : Clock} {seen : List String} {name : String}

theorem distinctNames_of_ofConfig {c : Config} (hvalid : Config.Valid c.schedules)
    (hk : ofConfig c = .ok k) : DistinctNames k.schedules := by
  obtain ⟨sets, hsets, -, hchecker⟩ := Config.exists_checker hvalid
  obtain rfl : ⟨sets, c.timezone⟩ = k := Except.ok.inj (hchecker.symm.trans hk)
  exact (distinctNames_congr (Config.names_of_forall₂_isSetOf hsets)).mpr hvalid.distinct

/-! ### One schedule at one instant -/

theorem ask_isActive_eq_unknown_iff {instant : Option Instant} {e : Config.UnknownSchedule} :
    (k.ask clock seen (.isActive name instant)).outcome = .error (.unknown e) ↔
      k.schedule name = .error e := by
  rw [ask, askActive]
  cases k.schedule name with
  | error e' => simp [quiet]
  | ok s =>
      cases instant with
      | some i => simp [resolve]
      | none => cases hclock : clock seen.length k.timezone <;> simp [resolve, hclock, quiet]

theorem ask_isActive_some (i : Instant) :
    (k.ask clock seen (.isActive name (some i))).outcome =
      ((k.isActiveAt name i).map .truth).mapError .unknown := by
  rw [ask, askActive, isActiveAt]
  cases k.schedule name <;> rfl

theorem saysYes_isActive {s : WindowSet} (h : k.schedule name = .ok s) (i : Instant) :
    (k.ask clock seen (.isActive name (some i))).saysYes = s.contains i := by
  rw [Turn.saysYes, ask_isActive_some, isActiveAt, h]
  rfl

/-! ### Many schedules, or many instants -/

theorem activeAt_eq_filter (h : DistinctNames k.schedules) (i : Instant) :
    k.activeAt i = k.names.filter fun n => (k.ask clock seen (.isActive n (some i))).saysYes := by
  rw [activeAt, names, List.filter_map]
  refine congrArg _ (List.filter_congr fun t ht => ?_)
  rw [Function.comp_apply, saysYes_isActive (schedule_of_mem h ht rfl)]

theorem nodup_activeAt (h : DistinctNames k.schedules) (i : Instant) : (k.activeAt i).Nodup :=
  h.nodup_names.sublist (List.filter_sublist.map _)

theorem ask_select {s : WindowSet} (h : k.schedule name = .ok s) (is : List Instant) :
    (k.ask clock seen (.select name is)).outcome = .ok (.instants
      (is.filter fun i => (k.ask clock seen (.isActive name (some i))).saysYes)) := by
  simp only [saysYes_isActive h]
  rw [ask, select, h]
  rfl

theorem ask_select_eq_unknown_iff {is : List Instant} {e : Config.UnknownSchedule} :
    (k.ask clock seen (.select name is)).outcome = .error (.unknown e) ↔
      k.schedule name = .error e := by
  rw [ask, select]
  cases k.schedule name <;> simp [quiet, Except.map, Except.mapError]

/-- A checker of an accepted configuration answers which schedules are open at an instant by their
names in order, those of which it says so one by one. It answers at which instants a schedule is open
by the instants of which it says so one by one, and knows a name for both questions or for neither. -/
theorem selections_agree {entries : List (Value × Value)} {c : Config} {k : Checker}
    (h : Config.ofEntries entries = .ok c) (hk : ofConfig c = .ok k) (clock : Clock)
    (seen : List String) :
    (∀ i, ∃ active, (k.ask clock seen (.active (some i))).outcome = .ok (.names active) ∧
      active = (k.names.filter fun n => (k.ask clock seen (.isActive n (some i))).saysYes) ∧
      active.Nodup) ∧
    ∀ name is,
      ((k.ask clock seen (.select name is)).outcome = .ok (.instants
          (is.filter fun i => (k.ask clock seen (.isActive name (some i))).saysYes)) ∨
        (k.ask clock seen (.select name is)).outcome = .error (.unknown ⟨name⟩)) ∧
      ∀ instant, (k.ask clock seen (.select name is)).outcome = .error (.unknown ⟨name⟩) ↔
        (k.ask clock seen (.isActive name instant)).outcome = .error (.unknown ⟨name⟩) := by
  have hdistinct := distinctNames_of_ofConfig (Config.valid_of_ofEntries h) hk
  constructor
  · intro i
    exact ⟨k.activeAt i, rfl, activeAt_eq_filter hdistinct i, nodup_activeAt hdistinct i⟩
  · intro name is
    constructor
    · cases hschedule : k.schedule name with
      | ok s => exact Or.inl (ask_select hschedule is)
      | error e =>
          rw [eq_of_schedule_eq_error hschedule] at hschedule
          exact Or.inr (ask_select_eq_unknown_iff.mpr hschedule)
    · intro instant
      rw [ask_select_eq_unknown_iff, ask_isActive_eq_unknown_iff]

/-- The checker of `Config.street`. -/
def street : Checker :=
  ⟨[("ΟΔΟΣ", ⟨[⟨some .monday, some ⟨⟨32400000000, by decide⟩, ⟨61200000000, by decide⟩,
      by decide⟩⟩, ⟨some .saturday, none⟩]⟩), ("Weekend", ⟨[]⟩)], "UTC"⟩

def saturdayNoon : Instant :=
  ⟨⟨2023, 12, 30, by decide, by decide, by decide⟩, ⟨43200000000, by decide⟩, none⟩

theorem street_selections_agree :
    Config.ofEntries Config.streetEntries = .ok Config.street ∧ ofConfig Config.street = .ok street ∧
      (street.ask (.script saturdayNoon []) [] (.active (some saturdayNoon))).outcome =
        .ok (.names ["ΟΔΟΣ"]) ∧
      (street.ask (.script saturdayNoon []) [] (.select "street" [])).outcome =
        .error (.unknown ⟨"street"⟩) := by
  have hk : ofConfig Config.street = .ok street := by decide +kernel
  obtain ⟨hactive, hselect⟩ := selections_agree Config.ofEntries_streetEntries hk
    (.script saturdayNoon []) []
  obtain ⟨active, hanswer, hnames, -⟩ := hactive saturdayNoon
  refine ⟨Config.ofEntries_streetEntries, hk, ?_, ?_⟩
  · rw [hanswer, hnames]
    decide +kernel
  · exact ((hselect "street" []).2 none).mpr (by decide +kernel)

end Checker

end Timetable
