import Timetable.Text.Blank

/-!
How blanks and trimming meet the rest of a text: blanks in front of a text are passed over, and a
text that begins and ends with other characters is kept. So trimming finds a token between blanks, and
a token without blanks stands on one side of each blank.
-/
namespace Timetable.Text

theorem isBlank_iff {c : Char} :
    isBlank c = true ↔
      (0x09 ≤ c.toNat ∧ c.toNat ≤ 0x0d) ∨ (0x1c ≤ c.toNat ∧ c.toNat ≤ 0x20) ∨ c.toNat = 0x85 ∨
        c.toNat = 0xa0 ∨ c.toNat = 0x1680 ∨ (0x2000 ≤ c.toNat ∧ c.toNat ≤ 0x200a) ∨
        c.toNat = 0x2028 ∨ c.toNat = 0x2029 ∨ c.toNat = 0x202f ∨ c.toNat = 0x205f ∨
        c.toNat = 0x3000 := by
  simp only [isBlank, Bool.or_eq_true, Bool.and_eq_true, Nat.ble_eq, beq_iff_eq, or_assoc]

/-- The visible characters of the ASCII range are no blanks. -/
theorem not_isBlank_of_visible {c : Char} (hlow : 0x20 < c.toNat) (hhigh : c.toNat < 0x80) :
    isBlank c = false := by
  rw [Bool.eq_false_iff]
  intro h
  rw [isBlank_iff] at h
  omega

theorem allBlank_append (front back : List Char) :
    allBlank (front ++ back) = (allBlank front && allBlank back) := by
  simp [allBlank]

theorem allBlank_cons_iff {c : Char} {cs : List Char} :
    allBlank (c :: cs) = true ↔ isBlank c = true ∧ allBlank cs = true := by
  simp [allBlank]

theorem allBlank_cons_of_not_isBlank {c : Char} (h : isBlank c = false) (cs : List Char) :
    allBlank (c :: cs) = false := by
  simp [allBlank, h]

theorem trimStart_append {front : List Char} (h : allBlank front = true) (cs : List Char) :
    trimStart (front ++ cs) = trimStart cs := by
  exact List.dropWhile_append_of_pos (by simpa [allBlank] using h)

theorem trimStart_cons_of_not_isBlank {c : Char} (h : isBlank c = false) (cs : List Char) :
    trimStart (c :: cs) = c :: cs := by
  simp [trimStart, h]

theorem trim_eq_self {cs : List Char} (h : ∀ c ∈ cs, isBlank c = false) : trim cs = cs := by
  have keep : ∀ ds : List Char, (∀ c ∈ ds, isBlank c = false) → ds.dropWhile isBlank = ds := by
    intro ds hds
    cases ds with
    | nil => rfl
    | cons d ds => exact trimStart_cons_of_not_isBlank (hds d (by simp)) ds
  have hreverse : ∀ c ∈ cs.reverse, isBlank c = false := by simpa using h
  rw [trim, trimEnd, trimStart, keep cs h, keep cs.reverse hreverse, List.reverse_reverse]

/-! ### Trimmed texts -/

section Trim

variable {c : Char} {front cs back token : List Char}

theorem trimStart_append_of_not_allBlank (h : allBlank cs = false) (back : List Char) :
    trimStart (cs ++ back) = trimStart cs ++ back := by
  have hne : (cs.dropWhile isBlank).isEmpty = false := by
    rw [List.isEmpty_eq_false_iff]
    intro hnil
    rw [trimStart_eq_nil_iff.mp hnil] at h
    cases h
  rw [trimStart, List.dropWhile_append, hne]
  rfl

theorem trimEnd_append (h : allBlank back = true) (cs : List Char) :
    trimEnd (cs ++ back) = trimEnd cs := by
  have hreverse : allBlank back.reverse = true := by rwa [allBlank, List.all_reverse]
  rw [trimEnd, List.reverse_append, ← trimStart, trimStart_append hreverse]
  rfl

theorem trimEnd_append_of_not_allBlank (h : allBlank cs = false) (front : List Char) :
    trimEnd (front ++ cs) = front ++ trimEnd cs := by
  have hreverse : allBlank cs.reverse = false := by rwa [allBlank, List.all_reverse]
  rw [trimEnd, List.reverse_append, ← trimStart, trimStart_append_of_not_allBlank hreverse,
    List.reverse_append, List.reverse_reverse]
  rfl

theorem trim_eq_nil_iff : trim cs = [] ↔ allBlank cs = true := by
  obtain ⟨front, hfront, hcs⟩ := exists_append_trimStart cs
  have hsame := congrArg allBlank hcs
  rw [allBlank_append, hfront, Bool.true_and] at hsame
  rw [trim, trimEnd_eq_nil_iff, hsame]

theorem trim_blank_append (h : allBlank front = true) (cs : List Char) :
    trim (front ++ cs) = trim cs := by
  rw [trim, trimStart_append h, ← trim]

theorem trim_cons_of_isBlank (h : isBlank c = true) (cs : List Char) : trim (c :: cs) = trim cs := by
  rw [trim, trimStart, List.dropWhile_cons_of_pos h, ← trimStart, ← trim]

theorem trim_append_blank (h : allBlank back = true) (cs : List Char) :
    trim (cs ++ back) = trim cs := by
  cases hcs : allBlank cs with
  | true =>
      have hall : allBlank (cs ++ back) = true := by simp [allBlank_append, hcs, h]
      rw [trim_eq_nil_iff.mpr hall, trim_eq_nil_iff.mpr hcs]
  | false => rw [trim, trimStart_append_of_not_allBlank hcs, trimEnd_append h, ← trim]

/-- A token without blanks is what trimming leaves of it and the blanks around it. -/
theorem trim_append (hfront : allBlank front = true) (hback : allBlank back = true)
    (htoken : ∀ c ∈ token, isBlank c = false) : trim (front ++ token ++ back) = token := by
  rw [trim_append_blank hback, trim_blank_append hfront, trim_eq_self htoken]

theorem exists_append_trim (cs : List Char) :
    ∃ front back, allBlank front = true ∧ allBlank back = true ∧ cs = front ++ trim cs ++ back := by
  obtain ⟨front, hfront, hcs⟩ := exists_append_trimStart cs
  obtain ⟨back, hback, htrim⟩ := exists_append_trimEnd (trimStart cs)
  refine ⟨front, back, hfront, hback, ?_⟩
  rw [List.append_assoc, trim, ← htrim, ← hcs]

theorem mem_trim (hc : isBlank c = false) (h : c ∈ cs) : c ∈ trim cs := by
  obtain ⟨front, back, hfront, hback, hcs⟩ := exists_append_trim cs
  have hnot : ∀ gap : List Char, allBlank gap = true → c ∉ gap := by
    intro gap hgap hmem
    rw [List.all_eq_true.mp hgap c hmem] at hc
    cases hc
  rw [hcs, List.mem_append, List.mem_append] at h
  rcases h with (hmem | hmem) | hmem
  · exact absurd hmem (hnot front hfront)
  · exact hmem
  · exact absurd hmem (hnot back hback)

/-- A token without blanks stands on one side of every blank of the text. -/
theorem trim_append_cons (hc : isBlank c = true)
    (h : ∀ d ∈ trim (front ++ c :: back), isBlank d = false) :
    allBlank front = true ∧ trim (front ++ c :: back) = trim back ∨
      allBlank back = true ∧ trim (front ++ c :: back) = trim front := by
  cases hfront : allBlank front with
  | true => exact Or.inl ⟨rfl, by rw [trim_blank_append hfront, trim_cons_of_isBlank hc]⟩
  | false =>
      cases hback : allBlank back with
      | true => exact Or.inr ⟨rfl, trim_append_blank (allBlank_cons_iff.mpr ⟨hc, hback⟩) front⟩
      | false =>
          -- Between two texts that are not blank the blank is kept.
          have hrest : allBlank (c :: back) = false := by simpa [allBlank, hc] using hback
          have htrim : trim (front ++ c :: back) = trimStart front ++ c :: trimEnd back := by
            rw [trim, trimStart_append_of_not_allBlank hfront, trimEnd_append_of_not_allBlank hrest,
              ← List.singleton_append, trimEnd_append_of_not_allBlank hback, List.singleton_append]
          rw [htrim] at h
          have hvisible := h c (by simp)
          rw [hc] at hvisible
          cases hvisible

end Trim

end Timetable.Text
