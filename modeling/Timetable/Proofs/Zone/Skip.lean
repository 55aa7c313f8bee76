import Timetable.Proofs.Date.Ordinal
import Timetable.Zone

/-!
What a wall clock shows of a reading that it may skip. Main statement: the instant at which the clock of
a zone is placed shows the reading moved forward by the time that the clock skips there, so two zones
show the same exactly when they skip the same.
-/
namespace Timetable

/-- The microseconds that a wall clock has counted, a day before the first day of the calendar being
zero. -/
def wallTicks (d : Date) (t : TimeOfDay) : Int :=
  d.ordinal * ticksPerDay + t.ticks

namespace Zone

variable {d e : Date} {t u : TimeOfDay} {seconds : Int}

theorem shift?_eq_some_iff :
    shift? d t seconds = some (e, u) ↔ wallTicks e u = wallTicks d t + seconds * 1000000 := by
  have hu := u.lt_day
  have he : 1 ≤ e.ordinal := by
    have := e.day_range.1
    rw [Date.ordinal]
    omega
  by_cases hlow : (wallTicks d t + seconds * 1000000) / ticksPerDay < 1
  · have hnone : shift? d t seconds = none := if_pos hlow
    simp only [wallTicks, ticksPerDay] at *
    constructor
    · rw [hnone]
      rintro ⟨⟩
    · omega
  · have hsome : shift? d t seconds =
        (Date.ofOrdinal? ((wallTicks d t + seconds * 1000000) / ticksPerDay).toNat).map _ :=
      if_neg hlow
    rw [hsome, Option.map_eq_some_iff]
    simp only [wallTicks, ticksPerDay] at *
    constructor
    · rintro ⟨f, hf, hpair⟩
      obtain ⟨rfl, rfl⟩ := Prod.mk.inj hpair
      rw [Date.ofOrdinal?_eq_some_iff] at hf
      simp only
      omega
    · intro h
      refine ⟨e, Date.ofOrdinal?_eq_some_iff.mpr (by omega), ?_⟩
      refine congrArg (Prod.mk e) (TimeOfDay.ext_ticks ?_)
      simp only
      omega

theorem shift?_zero (d : Date) (t : TimeOfDay) : shift? d t 0 = some (d, t) :=
  shift?_eq_some_iff.mpr (by omega)

theorem eq_of_shift?_eq {a b : Int} {r : Date × TimeOfDay} (ha : shift? d t a = some r)
    (hb : shift? d t b = some r) : a = b := by
  have hta := shift?_eq_some_iff.mp ha
  have htb := shift?_eq_some_iff.mp hb
  omega

/-- The seconds by which the clock of a zone is put forward over a reading; none if it shows the
reading. -/
def skipped (z : Zone) (d : Date) (t : TimeOfDay) : Int :=
  let wall := wallSeconds d t
  let before := z.wallOffset false d.year wall
  let after := z.wallOffset true d.year wall
  if before < after then after - before else 0

theorem place?_wall (z : Zone) (d : Date) (t : TimeOfDay) :
    (z.place? d t).map (fun i => (i.date, i.time)) = shift? d t (z.skipped d t) := by
  rw [place?, skipped]
  simp only
  split
  · rw [Option.map_map]
    exact Option.map_id_apply
  · rw [shift?_zero]
    rfl

/-- Two zones show the same of a reading exactly when they skip the same there, or when both move it
out of the calendar. -/
theorem place?_wall_eq_iff (y z : Zone) (d : Date) (t : TimeOfDay) :
    (y.place? d t).map (fun i => (i.date, i.time)) = (z.place? d t).map (fun i => (i.date, i.time)) ↔
      y.skipped d t = z.skipped d t ∨ y.place? d t = none ∧ z.place? d t = none := by
  constructor
  · intro h
    cases hy : y.place? d t with
    | none =>
        refine Or.inr ⟨rfl, ?_⟩
        rw [hy, Option.map_none, eq_comm, Option.map_eq_none_iff] at h
        exact h
    | some i =>
        refine Or.inl (eq_of_shift?_eq (r := (i.date, i.time)) ?_ ?_ (d := d) (t := t))
        · rw [← place?_wall, hy, Option.map_some]
        · rw [← place?_wall, ← h, hy, Option.map_some]
  · rintro (hskip | ⟨hy, hz⟩)
    · rw [place?_wall, place?_wall, hskip]
    · rw [hy, hz]

end Zone

end Timetable
