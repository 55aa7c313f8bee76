import Timetable.Proofs.Text.Case
import Timetable.Text.Blank

/-!
Texts that differ only in the case of ASCII letters. Main statement: such texts have one lower case,
although the lower case of a capital sigma depends on the letters around it.
-/
namespace Timetable.Text

/-- Two texts are the same but for the case of ASCII letters. Other letters have to be the same
throughout, also where one is the capital of the other. -/
def SameButCase (s t : String) : Prop :=
  s.toList.map Char.toLower = t.toList.map Char.toLower

instance (s t : String) : Decidable (SameButCase s t) := by
  unfold SameButCase
  infer_instance

/-- What is the same for each capital letter and its small letter is the same for all characters
and their small letters. -/
theorem apply_toLower {α : Type} (f : Char → α)
    (h : ∀ n < 26, f (Char.ofNat (0x61 + n)) = f (Char.ofNat (0x41 + n))) (c : Char) :
    f c.toLower = f c := by
  by_cases hcapital : 0x41 ≤ c.toNat ∧ c.toNat ≤ 0x5a
  · have hsmall : ∀ n < 26, (Char.ofNat (0x41 + n)).toLower = Char.ofNat (0x61 + n) := by decide
    obtain ⟨n, hn⟩ := Nat.exists_eq_add_of_le hcapital.1
    have hlt : n < 26 := by omega
    have hc : c = Char.ofNat (0x41 + n) := by rw [← hn, Char.ofNat_toNat]
    rw [hc, hsmall n hlt]
    exact h n hlt
  · rw [toLower_eq_self (by omega)]

theorem isBlank_toLower (c : Char) : isBlank c.toLower = isBlank c :=
  apply_toLower isBlank (by decide) c

theorem isCased_toLower (c : Char) : isCased c.toLower = isCased c :=
  apply_toLower isCased (by decide) c

theorem isCaseSkipped_toLower (c : Char) : isCaseSkipped c.toLower = isCaseSkipped c :=
  apply_toLower isCaseSkipped (by decide +kernel) c

theorem lowerChar_toLower (c : Char) : lowerChar c.toLower = lowerChar c :=
  apply_toLower lowerChar (by decide) c

/-- No other character becomes a capital sigma. -/
theorem toLower_is_sigma_iff (c : Char) : c.toLower.toNat = 0x3a3 ↔ c.toNat = 0x3a3 :=
  iff_of_eq (apply_toLower (fun c => c.toNat = 0x3a3) (by decide) c)

theorem nextIsCased_map_toLower (cs : List Char) :
    nextIsCased (cs.map Char.toLower) = nextIsCased cs := by
  unfold nextIsCased
  induction cs with
  | nil => rfl
  | cons c cs ih =>
      simp only [List.map_cons, List.dropWhile_cons, isCaseSkipped_toLower]
      cases isCaseSkipped c with
      | true => exact ih
      | false => exact isCased_toLower c

theorem lowerFrom_map_toLower (before cs : List Char) :
    lowerFrom (before.map Char.toLower) (cs.map Char.toLower) = lowerFrom before cs := by
  induction cs generalizing before with
  | nil => rfl
  | cons c cs ih =>
      -- What stands before the rest now has its first letter lowered as well.
      have hrest := ih (c :: before)
      rw [List.map_cons] at hrest
      simp only [List.map_cons, lowerFrom, toLower_is_sigma_iff, nextIsCased_map_toLower,
        lowerChar_toLower, hrest]

theorem lower_eq_of_sameButCase {s t : String} (h : SameButCase s t) : lower s = lower t := by
  have hlower : lowerFrom [] s.toList = lowerFrom [] t.toList := by
    rw [← lowerFrom_map_toLower [] s.toList, ← lowerFrom_map_toLower [] t.toList, h]
  rw [lower, lower, hlower]

/-- A final sigma is found after a letter of either case. -/
example : lower "AΣ" = "aς" ∧ lower "aΣ" = "aς" := by decide +kernel

end Timetable.Text
