import Timetable.Proofs.Except
import Timetable.Value

/-!
Values as numbers. Main statements: which values equal a whole number, in particular the place of a
weekday in the week, and which values count as absent.
-/
namespace Timetable

theorem Weekday.ofIndex?_eq_some_iff {n : Nat} {d : Weekday} : ofIndex? n = some d ↔ d.index = n := by
  constructor
  · intro h
    unfold ofIndex? at h
    split at h <;> cases h <;> rfl
  · rintro rfl
    exact d.ofIndex?_index

theorem Weekday.exists_index_eq {n : Nat} (h : n < 7) : ∃ d : Weekday, d.index = n :=
  ⟨ofCount n, (index_ofCount n).trans (Nat.mod_eq_of_lt h)⟩

namespace Binary64

theorem fraction?_finite (negative : Bool) (m : Nat) (e : Int) :
    (finite negative m e).fraction? =
      some (if negative then -((scale m 1 (-e)).1 : Int) else (scale m 1 (-e)).1,
        (scale m 1 (-e)).2) := rfl

theorem scale_one (m : Nat) (e : Int) :
    0 < (scale m 1 e).2 ∧ ((scale m 1 e).1 = 0 ↔ m = 0) := by
  have hpow (k : Nat) : 0 < 2 ^ k := Nat.two_pow_pos k
  rw [scale]
  split
  · exact ⟨by simp [Nat.shiftLeft_eq, hpow], Iff.rfl⟩
  · refine ⟨Nat.one_pos, ?_⟩
    rw [Nat.shiftLeft_eq, Nat.mul_eq_zero, or_iff_left (Nat.ne_of_gt (hpow _))]

theorem den_pos {x : Binary64} {p : Int} {q : Nat} (h : x.fraction? = some (p, q)) : 0 < q := by
  cases x with
  | nan => cases h
  | infinite negative => cases h
  | finite negative m e =>
      rw [fraction?_finite, Option.some.injEq, Prod.mk.injEq] at h
      exact h.2 ▸ (scale_one m (-e)).1

theorem toInt?_eq_some_iff {x : Binary64} {n : Int} :
    x.toInt? = some n ↔ ∃ p q, x.fraction? = some (p, q) ∧ p = n * q := by
  rw [toInt?]
  cases hx : x.fraction? with
  | none => simp
  | some f =>
      obtain ⟨p, q⟩ := f
      have hpos : (q : Int) ≠ 0 := Int.natCast_ne_zero_iff_pos.mpr (den_pos hx)
      simp only [Option.some.injEq, Prod.mk.injEq]
      constructor
      · intro h
        split at h
        · next hmod =>
          refine ⟨p, q, ⟨rfl, rfl⟩, ?_⟩
          rw [← Option.some.inj h, Int.ediv_mul_cancel (Int.dvd_of_emod_eq_zero hmod)]
        · cases h
      · rintro ⟨_, _, ⟨rfl, rfl⟩, rfl⟩
        rw [if_pos (Int.mul_emod_left n q), Int.mul_ediv_cancel n hpos]

/-- Both zeros have the value of zero, and nothing else has. -/
theorem sameValue_zero_iff {x : Binary64} :
    x.sameValue zero = true ↔ ∃ negative e, x = .finite negative 0 e := by
  cases x with
  | nan => simp [sameValue]
  | infinite negative => simp [sameValue, zero, fraction?]
  | finite negative m e =>
      have hzero := (scale_one m (-e)).2
      have hfractions : (finite negative m e).sameValue zero =
          ((if negative then -((scale m 1 (-e)).1 : Int) else (scale m 1 (-e)).1) * (1 : Nat) ==
            0 * ((scale m 1 (-e)).2 : Int)) := rfl
      rw [hfractions]
      cases negative <;> simp [hzero]

end Binary64

namespace Value

variable {v : Value} {n : Int} {d : Weekday}

/-- A value equals a whole number. A truth value counts as 0 or 1, and a float by its exact value.
-/
inductive EqualsInt : Value → Int → Prop where
  | no : EqualsInt (.bool false) 0
  | yes : EqualsInt (.bool true) 1
  | int (n : Int) : EqualsInt (.int n) n
  | float {x : Binary64} {p : Int} {q : Nat} (hx : x.fraction? = some (p, q)) {n : Int}
      (hn : p = n * q) : EqualsInt (.float x) n

theorem toInt?_eq_some_iff : v.toInt? = some n ↔ v.EqualsInt n := by
  constructor
  · intro h
    cases v with
    | bool b =>
        cases b with
        | false => exact Option.some.inj h ▸ .no
        | true => exact Option.some.inj h ▸ .yes
    | int m => exact Option.some.inj h ▸ .int m
    | float x =>
        obtain ⟨p, q, hx, hn⟩ := Binary64.toInt?_eq_some_iff.mp h
        exact .float hx hn
    | _ => cases h
  · intro h
    cases h with
    | no => rfl
    | yes => rfl
    | int n => rfl
    | float hx hn => exact Binary64.toInt?_eq_some_iff.mpr ⟨_, _, hx, hn⟩

theorem weekday?_eq_some_iff : v.weekday? = some d ↔ v.EqualsInt d.index := by
  rw [← toInt?_eq_some_iff, weekday?]
  constructor
  · intro h
    split at h
    · next k hk =>
      rw [hk, Weekday.ofIndex?_eq_some_iff.mp h]
      rfl
    · cases h
  · intro h
    simp only [h]
    exact d.ofIndex?_index

theorem six_lt_longNumber : 6 < longNumber := by
  have hpos : 0 < Text.Numeral.digitLimit := by decide
  unfold longNumber
  -- Any number of digits will do, and ten to that many is better left alone.
  generalize Text.Numeral.digitLimit = n at hpos
  exact Nat.lt_of_lt_of_le (by decide) (Nat.le_pow hpos)

/-- The values that count as absent: none, no, zeros, and what is empty. -/
inductive CountsAsAbsent : Value → Prop where
  | null : CountsAsAbsent .null
  | no : CountsAsAbsent (.bool false)
  | zero : CountsAsAbsent (.int 0)
  | floatZero (negative : Bool) (e : Int) : CountsAsAbsent (.float (.finite negative 0 e))
  | text : CountsAsAbsent (.text "")
  | bytes : CountsAsAbsent (.bytes [])
  | list : CountsAsAbsent (.list [])
  | tuple : CountsAsAbsent (.tuple [])
  | set : CountsAsAbsent (.set [])
  | map : CountsAsAbsent (.map [])

theorem isFalsy_iff : v.isFalsy = true ↔ v.CountsAsAbsent := by
  constructor
  · intro h
    cases v with
    | null => exact .null
    | bool b =>
        cases b with
        | false => exact .no
        | true => cases h
    | int n => exact eq_of_beq h ▸ .zero
    | float x =>
        obtain ⟨negative, e, rfl⟩ := Binary64.sameValue_zero_iff.mp h
        exact .floatZero negative e
    | text s => exact String.isEmpty_iff.mp h ▸ .text
    | bytes bs => exact List.isEmpty_iff.mp h ▸ .bytes
    | list items => exact List.isEmpty_iff.mp h ▸ .list
    | tuple items => exact List.isEmpty_iff.mp h ▸ .tuple
    | set items => exact List.isEmpty_iff.mp h ▸ .set
    | map entries => exact List.isEmpty_iff.mp h ▸ .map
    | _ => cases h
  · intro h
    cases h with
    | floatZero negative e => exact Binary64.sameValue_zero_iff.mpr ⟨negative, e, rfl⟩
    | _ => rfl

end Value

end Timetable
