import Timetable.Proofs.Zone.Skip
import Timetable.Stamp

/-!
What the wall clock shows at the instant that a text stands for. Main statement: a text other than the
one for the current time shows the same in two time zones exactly when it tells its distance from
universal time, or is no instant, or is a reading of which both zones skip the same.
-/
namespace Timetable

namespace Reading

variable {text : String} {now : Instant}

/-- What the wall clock shows at an instant that is read. -/
def wall (r : Except StampError Instant) : Option (Date × TimeOfDay) :=
  r.toOption.map fun i => (i.date, i.time)

/-- The reading of a wall clock that a text stands for if it does not tell its distance from universal
time. -/
def localWall? (today : Date) (text : String) : Option (Date × TimeOfDay) :=
  match ofText text with
  | .ok (.stamp s) => match wall? today s with
      | some (d, t, none) => some (d, t)
      | _ => none
  | _ => none

theorem eq_now_of_ofText (h : ofText text = .ok .now) : text = "now" := by
  rw [ofText] at h
  split at h
  · next heq => exact eq_of_beq heq
  · split at h
    · cases h
    · split at h
      · cases h
      · split at h <;> cases h

theorem placeWall_toOption {name : String} {z : Zone} (hz : Zone.find name = .ok z) (d : Date)
    (t : TimeOfDay) : (placeWall name d t none).toOption = z.place? d t := by
  simp only [placeWall, hz]
  cases z.place? d t <;> rfl

/-- Two zones show the same of a reading: they skip the same there, or both have no instant for it. -/
def SkipAlike (y z : Zone) (d : Date) (t : TimeOfDay) : Prop :=
  y.skipped d t = z.skipped d t ∨ y.place? d t = none ∧ z.place? d t = none

theorem wall_placeWall_eq_iff {name name' : String} {y z : Zone} (hy : Zone.find name = .ok y)
    (hz : Zone.find name' = .ok z) (d : Date) (t : TimeOfDay) :
    wall (placeWall name d t none) = wall (placeWall name' d t none) ↔ SkipAlike y z d t := by
  rw [wall, wall, placeWall_toOption hy, placeWall_toOption hz]
  exact Zone.place?_wall_eq_iff y z d t

/-- A text is read alike in two zones unless it is a local reading that one of them skips. -/
theorem wall_read_eq_iff {name name' : String} {y z : Zone} (hnow : text ≠ "now")
    (hy : Zone.find name = .ok y) (hz : Zone.find name' = .ok z) :
    wall (Instant.read text name now) = wall (Instant.read text name' now) ↔
      ∀ d t, localWall? now.date text = some (d, t) → SkipAlike y z d t := by
  rw [Instant.read, Instant.read, localWall?]
  cases htext : ofText text with
  | error e => simp
  | ok r =>
      cases r with
      | now => exact absurd (eq_now_of_ofText htext) hnow
      | interval a b =>
          have hnone (name : String) :
              wall (instant text name now (.interval a b)) = none := by
            rw [instant]
            cases checkInterval name a b <;> rfl
          simp [hnone]
      | stamp s =>
          simp only [instant]
          cases hwall : wall? now.date s with
          | none => simp
          | some found =>
              obtain ⟨d, t, o⟩ := found
              cases o with
              | some o => simp [placeWall]
              | none =>
                  rw [wall_placeWall_eq_iff hy hz]
                  simp
end Reading

end Timetable
