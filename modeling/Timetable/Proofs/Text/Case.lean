import Timetable.Text.Case

/-!
Lower case forms that lie in the ASCII range. Main statement: no letter above that range is lowered
into it, save the Kelvin sign, so a word without `k` is the lower case of a text exactly when the
text spells it in ASCII letters of either case.
-/
namespace Timetable.Text

/-- Only the capital letters of the ASCII range change. -/
theorem toLower_eq_self {c : Char} (h : c.toNat < 0x41 ∨ 0x5a < c.toNat) : c.toLower = c := by
  have hupper : ¬(c.val ≥ 'A'.val ∧ c.val ≤ 'Z'.val) := by
    rintro ⟨hge, hle⟩
    have hlow : 'A'.toNat ≤ c.toNat := UInt32.le_iff_toNat_le.mp hge
    have hhigh : c.toNat ≤ 'Z'.toNat := UInt32.le_iff_toNat_le.mp hle
    simp only [Char.reduceToNat] at hlow hhigh
    omega
  exact dif_neg hupper

theorem toNat_ofNat {n : Nat} (h : n.isValidChar) : (Char.ofNat n).toNat = n := by
  rw [Char.ofNat, dif_pos h]
  rfl

namespace CaseRun

/-- The letters that a run gives are letters above the ASCII range. -/
def StaysAbove (r : CaseRun) : Prop :=
  0x80 ≤ r.first + r.offset ∧
    (r.last + r.offset < 0xd800 ∨ (0xdfff < r.first + r.offset ∧ r.last + r.offset < 0x110000))

instance (r : CaseRun) : Decidable r.StaysAbove := by
  unfold StaysAbove
  infer_instance

/-- The run of the Kelvin sign alone. -/
def kelvin : CaseRun := ⟨0x212a, 0x212a, 1, -8383⟩

theorem staysAbove_of_mem {r : CaseRun} (h : r ∈ lowerRuns) : r.StaysAbove ∨ r = kelvin := by
  have table : ∀ r ∈ lowerRuns, r.StaysAbove ∨ r = kelvin := by decide +kernel
  exact table r h

theorem not_ascii_of_staysAbove {r : CaseRun} (h : r.StaysAbove) {n m : Nat}
    (hm : r.apply? n = some m) : 0x80 ≤ (Char.ofNat m).toNat := by
  unfold CaseRun.apply? at hm
  split at hm
  · next hrange =>
      simp only [Bool.and_eq_true, Nat.ble_eq] at hrange
      obtain ⟨hlow, hhigh⟩ := h
      have heq : Int.toNat (n + r.offset) = m := by simpa using hm
      have hvalid : m.isValidChar := by
        rcases hhigh with hhigh | ⟨hbeyond, hhigh⟩
        · exact Or.inl (by omega)
        · exact Or.inr (by omega)
      rw [toNat_ofNat hvalid]
      omega
  · cases hm

theorem eq_k_of_kelvin {n m : Nat} (hm : kelvin.apply? n = some m) : Char.ofNat m = 'k' := by
  unfold CaseRun.apply? at hm
  split at hm
  · next hrange =>
      simp only [Bool.and_eq_true, Nat.ble_eq, kelvin] at hrange
      have hn : n = 0x212a := by omega
      subst hn
      have heq : m = 0x6b := by simpa [kelvin] using hm.symm
      subst heq
      rfl
  · cases hm

end CaseRun

/-- A character that no word of plain letters without `k` holds. -/
def IsForeign (c : Char) : Prop :=
  0x80 ≤ c.toNat ∨ c = 'k'

instance (c : Char) : Decidable (IsForeign c) := by
  unfold IsForeign
  infer_instance

theorem exists_foreign_mem_lowerChar {c : Char} (h : 0x80 ≤ c.toNat) :
    ∃ x ∈ lowerChar c, IsForeign x := by
  have hlow : ¬c.toNat < 0x80 := by omega
  unfold lowerChar
  simp only [hlow, ↓reduceIte]
  split
  · exact ⟨Char.ofNat 0x307, by simp, Or.inl (by decide)⟩
  · split
    · next m hm =>
        obtain ⟨r, hr, happly⟩ := List.exists_of_findSome?_eq_some hm
        refine ⟨Char.ofNat m, by simp, ?_⟩
        rcases CaseRun.staysAbove_of_mem hr with habove | rfl
        · exact Or.inl (CaseRun.not_ascii_of_staysAbove habove happly)
        · exact Or.inr (CaseRun.eq_k_of_kelvin happly)
    · exact ⟨c, by simp, Or.inl h⟩

theorem exists_foreign_mem_lowerFrom {c : Char} (hc : 0x80 ≤ c.toNat) {cs : List Char}
    (h : c ∈ cs) (before : List Char) : ∃ x ∈ lowerFrom before cs, IsForeign x := by
  induction cs generalizing before with
  | nil => cases h
  | cons d cs ih =>
      rw [lowerFrom]
      rcases List.mem_cons.mp h with rfl | h
      · split
        · -- The two small sigmas are letters above the ASCII range themselves.
          refine ⟨_, List.mem_append_left _ (List.mem_singleton.mpr rfl), Or.inl ?_⟩
          split <;> decide
        · obtain ⟨x, hx, hforeign⟩ := exists_foreign_mem_lowerChar hc
          exact ⟨x, List.mem_append_left _ hx, hforeign⟩
      · obtain ⟨x, hx, hforeign⟩ := ih h (d :: before)
        exact ⟨x, List.mem_append_right _ hx, hforeign⟩

/-- A text that spells a word of ASCII characters holds no others. -/
theorem ascii_of_map_toLower {word cs : List Char} (hword : ∀ l ∈ word, ¬IsForeign l)
    (h : cs.map Char.toLower = word) : ∀ c ∈ cs, c.toNat < 0x80 := by
  intro c hc
  refine Nat.lt_of_not_le fun hhigh => ?_
  have hmem : c ∈ word := h ▸ List.mem_map.mpr ⟨c, hc, toLower_eq_self (by omega)⟩
  exact hword c hmem (Or.inl hhigh)

/-- A word of ASCII characters other than `k` is the lower case of a text exactly when the text
spells it letter by letter. -/
theorem lowerFrom_eq_iff {word : List Char} (hword : ∀ l ∈ word, ¬IsForeign l)
    (before cs : List Char) : lowerFrom before cs = word ↔ cs.map Char.toLower = word := by
  constructor
  · rintro rfl
    rw [lowerFrom_ascii]
    intro c hc
    refine Nat.lt_of_not_le fun hhigh => ?_
    obtain ⟨x, hx, hforeign⟩ := exists_foreign_mem_lowerFrom hhigh hc before
    exact hword x hx hforeign
  · intro h
    rw [lowerFrom_ascii before cs (ascii_of_map_toLower hword h), h]

end Timetable.Text
