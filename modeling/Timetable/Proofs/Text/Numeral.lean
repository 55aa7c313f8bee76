import Mathlib.Data.List.TakeWhile
import Timetable.Proofs.Text.Blank
import Timetable.Text.Decimal
import Timetable.Text.Numeral

/-!
Decimal digits of the ASCII range. Main statement: a row of such digits is read as the number that
it stands for.
-/
namespace Timetable.Text

theorem isDigit_iff_exists_digitChar {c : Char} :
    c.isDigit = true ↔ ∃ n < 10, c = Nat.digitChar n := by
  constructor
  · intro h
    have hrange := Char.isDigit_iff_toNat.mp h
    simp only [Char.reduceToNat] at hrange
    have hn : c.toNat - 0x30 < 10 := by omega
    refine ⟨c.toNat - 0x30, hn, ?_⟩
    apply Char.toNat_inj.mp
    rw [Nat.toNat_digitChar_of_lt_ten hn]
    omega
  · rintro ⟨n, hn, rfl⟩
    simp [Nat.isDigit_digitChar, hn]

/-- A digit is none of the characters that are no digits. -/
theorem digitChar_ne {n : Nat} (h : n < 10) {c : Char} (hc : c.isDigit = false) :
    Nat.digitChar n ≠ c := by
  rintro rfl
  simp [Nat.isDigit_digitChar, h] at hc

theorem not_isBlank_of_isDigit {c : Char} (h : c.isDigit = true) : isBlank c = false := by
  obtain ⟨n, hn, rfl⟩ := isDigit_iff_exists_digitChar.mp h
  have hcode := Nat.toNat_digitChar_of_lt_ten hn
  exact not_isBlank_of_visible (by omega) (by omega)

theorem digit?_digitChar {n : Nat} (h : n < 10) : digit? (Nat.digitChar n) = some n := by
  have hcode := Nat.toNat_digitChar_of_lt_ten h
  rw [digit?_eq_asciiDigit? (by omega), asciiDigit?, Nat.isDigit_digitChar, hcode]
  simp [h]

/-- The digits of a number, written with `width` of them, are digits of the ASCII range. -/
theorem isDigit_of_mem_padded {width n : Nat} {c : Char} (h : c ∈ padded width n) :
    c.isDigit = true := by
  induction width generalizing n with
  | zero => simp [padded] at h
  | succ width ih =>
      rcases List.mem_append.mp h with h | h
      · exact ih h
      · have hc : c = Nat.digitChar (n % 10) := by simpa using h
        exact isDigit_iff_exists_digitChar.mpr ⟨n % 10, Nat.mod_lt n (by decide), hc⟩

theorem exists_cons_padded (width n : Nat) :
    ∃ c cs, padded (width + 1) n = c :: cs ∧ c.isDigit = true := by
  obtain ⟨c, cs, hcs⟩ := List.exists_cons_of_length_eq_add_one (padded_length (width + 1) n)
  exact ⟨c, cs, hcs, isDigit_of_mem_padded (hcs ▸ List.mem_cons_self)⟩

/-- The values of the last `width` decimal digits of a number. -/
def places : Nat → Nat → List Nat
  | 0, _ => []
  | width + 1, n => places width (n / 10) ++ [n % 10]

theorem padded_eq_map_places (width n : Nat) :
    padded width n = (places width n).map Nat.digitChar := by
  induction width generalizing n with
  | zero => rfl
  | succ width ih => simp [padded, places, ih]

theorem places_length (width n : Nat) : (places width n).length = width := by
  induction width generalizing n with
  | zero => rfl
  | succ width ih => simp [places, ih]

theorem lt_ten_of_mem_places {width n d : Nat} (h : d ∈ places width n) : d < 10 := by
  induction width generalizing n with
  | zero => simp [places] at h
  | succ width ih =>
      rcases List.mem_append.mp h with h | h
      · exact ih h
      · have hd : d = n % 10 := by simpa using h
        omega

namespace Numeral

theorem ofDigits_places {width n : Nat} (h : n < Nat.pow 10 width) :
    ofDigits (places width n) = n := by
  induction width generalizing n with
  | zero =>
      have hzero : n = 0 := Nat.lt_one_iff.mp h
      subst hzero
      rfl
  | succ width ih =>
      have hhead : n / 10 < Nat.pow 10 width := by
        change n < Nat.pow 10 width * 10 at h
        omega
      rw [places, ofDigits_append_singleton, ih hhead]
      omega

theorem isBody_digitChar {d : Nat} (h : d < 10) : isBody (Nat.digitChar d) = true := by
  simp [isBody, digit?_digitChar h]

theorem isPad_of_isDigit {c : Char} (h : c.isDigit = true) : isPad c = false := by
  simp [isPad, not_isBlank_of_isDigit h]

/-- The digits of a row are taken as they stand; a row without digits needs one in front of it. -/
theorem digits_map_digitChar (afterDigit : Bool) {ds : List Nat} (h : ∀ d ∈ ds, d < 10) :
    digits afterDigit (ds.map Nat.digitChar) =
      if ds = [] ∧ afterDigit = false then none else some ds := by
  induction ds generalizing afterDigit with
  | nil => cases afterDigit <;> rfl
  | cons d ds ih =>
      have hd : d < 10 := h d (by simp)
      have hrest : ∀ e ∈ ds, e < 10 := fun e he => h e (by simp [he])
      have hscore : Nat.digitChar d ≠ '_' := digitChar_ne hd (by decide)
      simp [digits, hscore, digit?_digitChar hd, ih true hrest]

theorem sign_digitChar {d : Nat} (h : d < 10) (cs : List Char) :
    sign (Nat.digitChar d :: cs) = (false, Nat.digitChar d :: cs) := by
  unfold sign
  split
  · next heq => exact absurd (List.cons.inj heq).1 (digitChar_ne h (by decide))
  · next heq => exact absurd (List.cons.inj heq).1 (digitChar_ne h (by decide))
  · rfl

theorem read_map_digitChar {ds : List Nat} (hne : ds ≠ []) (hlimit : ds.length ≤ digitLimit)
    (h : ∀ d ∈ ds, d < 10) : read (ds.map Nat.digitChar) = .ok (ofDigits ds : Int) := by
  obtain ⟨d, es, rfl⟩ := List.exists_cons_of_ne_nil hne
  have hd : d < 10 := h d (by simp)
  have hbody : ∀ c ∈ (d :: es).map Nat.digitChar, isBody c = true := by
    intro c hc
    obtain ⟨e, he, rfl⟩ := List.mem_map.mp hc
    exact isBody_digitChar (h e he)
  have hpad : ((d :: es).map Nat.digitChar).dropWhile isPad = (d :: es).map Nat.digitChar := by
    rw [List.map_cons, List.dropWhile_cons_of_neg]
    simp [isPad_of_isDigit (isDigit_iff_exists_digitChar.mpr ⟨d, hd, rfl⟩)]
  have htake : ((d :: es).map Nat.digitChar).takeWhile isBody = (d :: es).map Nat.digitChar :=
    List.takeWhile_eq_self_iff.mpr hbody
  have hdrop : ((d :: es).map Nat.digitChar).dropWhile isBody = [] :=
    List.dropWhile_eq_nil_iff.mpr hbody
  have hdigits : digits false ((d :: es).map Nat.digitChar) = some (d :: es) := by
    rw [digits_map_digitChar false h]
    rfl
  have hsign := sign_digitChar hd (es.map Nat.digitChar)
  rw [← List.map_cons] at hsign
  simp only [read, hpad, hsign, htake, hdrop, hdigits]
  rw [if_neg (by omega)]
  rfl

/-- Digits of the ASCII range are read as the number that they are the last places of. -/
theorem read_padded {width n : Nat} (hwidth : 0 < width) (hlimit : width ≤ digitLimit)
    (h : n < Nat.pow 10 width) : read (padded width n) = .ok (n : Int) := by
  have hlength := places_length width n
  have hne : places width n ≠ [] := by
    intro hnil
    rw [hnil] at hlength
    simp at hlength
    omega
  rw [padded_eq_map_places, read_map_digitChar hne (by omega) fun d hd => lt_ten_of_mem_places hd,
    ofDigits_places h]

end Numeral

end Timetable.Text
