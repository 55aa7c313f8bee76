import Mathlib.Logic.Relation
import Timetable.Proofs.Text.AsciiCase
import Timetable.Proofs.Text.Numeral

/-!
Texts that differ only in their blanks and in the case of ASCII letters. Main statement: such texts have one
squeezed form, the blanks at its front left aside, and that form is a row of the same tokens.
-/
namespace Timetable.Text

/-- A row of one blank or more. -/
def IsGap (cs : List Char) : Prop :=
  cs ≠ [] ∧ allBlank cs = true

instance (cs : List Char) : Decidable (IsGap cs) :=
  inferInstanceAs (Decidable (_ ∧ _))

/-- One text is written in the way of another: blanks are added at an end, a row of blanks stands for another
one, or ASCII letters change their case. -/
inductive Respelled : List Char → List Char → Prop
  | front {gap : List Char} (cs : List Char) : allBlank gap = true → Respelled cs (gap ++ cs)
  | behind {gap : List Char} (cs : List Char) : allBlank gap = true → Respelled cs (cs ++ gap)
  | between {gap gap' : List Char} (cs ds : List Char) :
      IsGap gap → IsGap gap' → Respelled (cs ++ gap ++ ds) (cs ++ gap' ++ ds)
  | letters {cs ds : List Char} : cs.map Char.toLower = ds.map Char.toLower → Respelled cs ds

/-- A text with a blank in front of it, unless there is one already or the text is empty. -/
def gapBefore : List Char → List Char
  | [] => []
  | c :: cs => if isBlank c then c :: cs else ' ' :: c :: cs

/-- A text with one blank in the place of each row of blanks, with none at its end, and with small letters in
the place of ASCII capitals. -/
def squeeze : List Char → List Char
  | [] => []
  | c :: cs => if isBlank c then gapBefore (squeeze cs) else c.toLower :: squeeze cs

variable {c : Char} {cs ds gap token rest : List Char}

/-! ### Blanks in front -/

theorem gapBefore_gapBefore (cs : List Char) : gapBefore (gapBefore cs) = gapBefore cs := by
  have hblank : isBlank ' ' = true := by decide
  cases cs with
  | nil => rfl
  | cons c cs => cases hc : isBlank c <;> simp [gapBefore, hc, hblank]

theorem allBlank_gapBefore (cs : List Char) : allBlank (gapBefore cs) = allBlank cs := by
  have hblank : isBlank ' ' = true := by decide
  cases cs with
  | nil => rfl
  | cons c cs => cases hc : isBlank c <;> simp [gapBefore, allBlank, hc, hblank]

theorem trimStart_gapBefore (cs : List Char) : trimStart (gapBefore cs) = trimStart cs := by
  have hblank : isBlank ' ' = true := by decide
  cases cs with
  | nil => rfl
  | cons c cs => cases hc : isBlank c <;> simp [gapBefore, trimStart, hc, hblank]

theorem exists_gapBefore_eq (cs : List Char) :
    ∃ gap, allBlank gap = true ∧ gapBefore cs = gap ++ cs := by
  cases cs with
  | nil => exact ⟨[], rfl, rfl⟩
  | cons c cs =>
      cases hc : isBlank c with
      | true => exact ⟨[], rfl, by simp [gapBefore, hc]⟩
      | false => exact ⟨[' '], rfl, by simp [gapBefore, hc]⟩

theorem eq_or_eq_of_gapBefore (h : gapBefore cs = c :: ds) :
    isBlank c = true ∧ (cs = c :: ds ∨ cs = ds) := by
  cases cs with
  | nil => cases h
  | cons d cs =>
      rw [gapBefore] at h
      split at h
      · next hd => exact ⟨(List.cons.inj h).1 ▸ hd, Or.inl h⟩
      · exact ⟨(List.cons.inj h).1 ▸ rfl, Or.inr (List.cons.inj h).2⟩

/-! ### Squeezed texts -/

theorem squeeze_cons_of_isBlank (h : isBlank c = true) (cs : List Char) :
    squeeze (c :: cs) = gapBefore (squeeze cs) := by
  rw [squeeze, if_pos h]

theorem squeeze_cons_of_not_isBlank (h : isBlank c = false) (cs : List Char) :
    squeeze (c :: cs) = c.toLower :: squeeze cs := by
  rw [squeeze, h]
  rfl

theorem squeeze_gap_append (h : IsGap gap) (cs : List Char) :
    squeeze (gap ++ cs) = gapBefore (squeeze cs) := by
  obtain ⟨hne, hblank⟩ := h
  induction gap with
  | nil => exact absurd rfl hne
  | cons c gap ih =>
      obtain ⟨hc, hgap⟩ := allBlank_cons_iff.mp hblank
      rw [List.cons_append, squeeze_cons_of_isBlank hc]
      cases gap with
      | nil => rfl
      | cons d gap => rw [ih (List.cons_ne_nil d gap) hgap, gapBefore_gapBefore]

/-- What follows a text can be changed if it is squeezed to the same. -/
theorem squeeze_append_congr (h : squeeze cs = squeeze ds) (front : List Char) :
    squeeze (front ++ cs) = squeeze (front ++ ds) := by
  induction front with
  | nil => exact h
  | cons c front ih => simp only [List.cons_append, squeeze, ih]

theorem squeeze_of_allBlank (h : allBlank gap = true) : squeeze gap = [] := by
  cases gap with
  | nil => rfl
  | cons c gap =>
      have hgap := squeeze_gap_append ⟨List.cons_ne_nil c gap, h⟩ []
      rwa [List.append_nil] at hgap

theorem allBlank_squeeze (cs : List Char) : allBlank (squeeze cs) = allBlank cs := by
  induction cs with
  | nil => rfl
  | cons c cs ih =>
      cases hc : isBlank c with
      | true =>
          rw [squeeze_cons_of_isBlank hc, allBlank_gapBefore, ih]
          simp [allBlank, hc]
      | false =>
          have hlower : isBlank c.toLower = false := by rw [isBlank_toLower, hc]
          rw [squeeze_cons_of_not_isBlank hc, allBlank_cons_of_not_isBlank hlower,
            allBlank_cons_of_not_isBlank hc]

theorem squeeze_map_toLower (cs : List Char) : squeeze (cs.map Char.toLower) = squeeze cs := by
  have htwice : ∀ c : Char, c.toLower.toLower = c.toLower := apply_toLower Char.toLower (by decide)
  induction cs with
  | nil => rfl
  | cons c cs ih => simp only [List.map_cons, squeeze, isBlank_toLower, htwice, ih]

theorem trimStart_squeeze_append (h : allBlank gap = true) (cs : List Char) :
    trimStart (squeeze (gap ++ cs)) = trimStart (squeeze cs) := by
  by_cases hgap : gap = []
  · rw [hgap, List.nil_append]
  · rw [squeeze_gap_append ⟨hgap, h⟩, trimStart_gapBefore]

/-- A step of respelling keeps the squeezed form, but for a blank at its front. -/
theorem Respelled.trimStart_squeeze_eq (h : Respelled cs ds) :
    trimStart (squeeze cs) = trimStart (squeeze ds) := by
  cases h with
  | front _ hgap => exact (trimStart_squeeze_append hgap cs).symm
  | behind _ hgap =>
      have hnil : squeeze [] = squeeze _ := (squeeze_of_allBlank hgap).symm
      have hsame := squeeze_append_congr hnil cs
      rw [List.append_nil] at hsame
      rw [hsame]
  | between as bs hgap hgap' =>
      rw [List.append_assoc, List.append_assoc]
      have hsame := (squeeze_gap_append hgap bs).trans (squeeze_gap_append hgap' bs).symm
      rw [squeeze_append_congr hsame as]
  | letters hcase => rw [← squeeze_map_toLower cs, hcase, squeeze_map_toLower]

theorem trimStart_squeeze_eq (h : Relation.ReflTransGen Respelled cs ds) :
    trimStart (squeeze cs) = trimStart (squeeze ds) := by
  induction h with
  | refl => rfl
  | tail _ hstep ih => exact ih.trans hstep.trimStart_squeeze_eq

/-! ### Tokens and gaps of a squeezed text -/

theorem squeeze_token_append (h : ∀ c ∈ token, isBlank c = false) (cs : List Char) :
    squeeze (token ++ cs) = token.map Char.toLower ++ squeeze cs := by
  induction token with
  | nil => rfl
  | cons c token ih =>
      rw [List.forall_mem_cons] at h
      rw [List.cons_append, squeeze_cons_of_not_isBlank h.1, ih h.2, List.map_cons, List.cons_append]

theorem exists_squeeze_append (h : allBlank gap = true) (cs : List Char) :
    ∃ gap', allBlank gap' = true ∧ squeeze (gap ++ cs) = gap' ++ squeeze cs := by
  by_cases hgap : gap = []
  · exact ⟨[], rfl, by rw [hgap, List.nil_append, List.nil_append]⟩
  · rw [squeeze_gap_append ⟨hgap, h⟩]
    exact exists_gapBefore_eq (squeeze cs)

/-- A token of the squeezed text stands in the text as well, in letters of either case. -/
theorem exists_token_of_squeeze (htoken : ∀ c ∈ token, isBlank c = false)
    (h : squeeze cs = token ++ rest) :
    ∃ token' rest', cs = token' ++ rest' ∧ token'.map Char.toLower = token ∧ squeeze rest' = rest := by
  induction token generalizing cs with
  | nil => exact ⟨[], cs, rfl, rfl, h⟩
  | cons d token ih =>
      rw [List.forall_mem_cons] at htoken
      cases cs with
      | nil => cases h
      | cons c cs =>
          cases hc : isBlank c with
          | true =>
              -- A squeezed text with a blank in front begins with a blank and not with the token.
              rw [squeeze_cons_of_isBlank hc] at h
              have hhead := (eq_or_eq_of_gapBefore h).1
              rw [htoken.1] at hhead
              cases hhead
          | false =>
              rw [squeeze_cons_of_not_isBlank hc] at h
              obtain ⟨hhead, htail⟩ := List.cons.inj h
              obtain ⟨token', rest', rfl, hlower, hrest⟩ := ih htoken.2 htail
              exact ⟨c :: token', rest', rfl, by rw [List.map_cons, hhead, hlower], hrest⟩

/-- Blanks of the squeezed text stand for blanks of the text. -/
theorem exists_gap_of_squeeze (hgap : allBlank gap = true) (h : squeeze cs = gap ++ rest) :
    ∃ gap' rest', cs = gap' ++ rest' ∧ allBlank gap' = true ∧ squeeze rest' = rest := by
  induction cs generalizing gap with
  | nil =>
      obtain ⟨rfl, rfl⟩ := List.append_eq_nil_iff.mp h.symm
      exact ⟨[], [], rfl, rfl, rfl⟩
  | cons c cs ih =>
      cases gap with
      | nil => exact ⟨[], c :: cs, rfl, rfl, h⟩
      | cons d gap =>
          obtain ⟨hd, hrest⟩ := allBlank_cons_iff.mp hgap
          cases hc : isBlank c with
          | true =>
              -- The first blank is one of the squeezed rest, or it is put in front of that.
              obtain ⟨gap', hgap', hsqueeze⟩ :
                  ∃ gap', allBlank gap' = true ∧ squeeze cs = gap' ++ rest := by
                rw [squeeze_cons_of_isBlank hc] at h
                rcases (eq_or_eq_of_gapBefore h).2 with hsame | hlast
                · exact ⟨d :: gap, hgap, hsame⟩
                · exact ⟨gap, hrest, hlast⟩
              obtain ⟨front, rest', rfl, hfront, hrest'⟩ := ih hgap' hsqueeze
              exact ⟨c :: front, rest', rfl, allBlank_cons_iff.mpr ⟨hc, hfront⟩, hrest'⟩
          | false =>
              rw [squeeze_cons_of_not_isBlank hc] at h
              have hhead : isBlank c.toLower = true := (List.cons.inj h).1 ▸ hd
              rw [isBlank_toLower, hc] at hhead
              cases hhead

/-! ### Signs -/

/-- A visible character that comes before the letters, such as a digit, a colon or a dash. -/
def IsSign (c : Char) : Prop :=
  isBlank c = false ∧ c.toNat < 0x41

instance (c : Char) : Decidable (IsSign c) :=
  inferInstanceAs (Decidable (_ ∧ _))

theorem isSign_of_isDigit (h : c.isDigit = true) : IsSign c := by
  obtain ⟨n, hn, rfl⟩ := isDigit_iff_exists_digitChar.mp h
  have hcode := Nat.toNat_digitChar_of_lt_ten hn
  exact ⟨not_isBlank_of_isDigit h, by omega⟩

theorem toLower_lt_iff (c : Char) : c.toLower.toNat < 0x41 ↔ c.toNat < 0x41 :=
  iff_of_eq (apply_toLower (fun c => c.toNat < 0x41) (by decide) c)

theorem map_toLower_eq_iff (h : ∀ c ∈ token, IsSign c) :
    cs.map Char.toLower = token ↔ cs = token := by
  constructor
  · rintro rfl
    have hkeep : cs.map Char.toLower = cs.map id := by
      apply List.map_congr_left
      intro c hc
      have hlow := (toLower_lt_iff c).mp (h _ (List.mem_map_of_mem hc)).2
      exact toLower_eq_self (Or.inl hlow)
    rw [hkeep, List.map_id]
  · rintro rfl
    rw [List.map_congr_left fun c hc => toLower_eq_self (Or.inl (h c hc).2), List.map_id']

theorem squeeze_signs_append (h : ∀ c ∈ token, IsSign c) (cs : List Char) :
    squeeze (token ++ cs) = token ++ squeeze cs := by
  rw [squeeze_token_append fun c hc => (h c hc).1, (map_toLower_eq_iff h).mpr rfl]

theorem exists_signs_of_squeeze (htoken : ∀ c ∈ token, IsSign c) (h : squeeze cs = token ++ rest) :
    ∃ rest', cs = token ++ rest' ∧ squeeze rest' = rest := by
  obtain ⟨token', rest', hcs, hlower, hrest⟩ :=
    exists_token_of_squeeze (fun c hc => (htoken c hc).1) h
  exact ⟨rest', (map_toLower_eq_iff htoken).mp hlower ▸ hcs, hrest⟩

end Timetable.Text
