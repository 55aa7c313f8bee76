import Timetable.Proofs.Text.AsciiCase
import Timetable.Proofs.Text.Blank
import Timetable.Weekday

/-!
Which texts name a day. Main statement: a text is read as a day exactly when, blanks around it left
aside, it is the full name or the abbreviation of that day in ASCII letters of either case.
-/
namespace Timetable.Weekday

/-- A text is a name of a day: the full name or the abbreviation, each letter in either case. -/
def IsName (d : Weekday) (cs : List Char) : Prop :=
  cs.map Char.toLower = d.lowerName ∨ cs.map Char.toLower = d.lowerAbbreviation

instance (d : Weekday) (cs : List Char) : Decidable (d.IsName cs) := by
  unfold IsName
  infer_instance

theorem lowerName_not_foreign (d : Weekday) : ∀ l ∈ d.lowerName, ¬Text.IsForeign l := by
  have table : (d.lowerName.all fun l => decide ¬Text.IsForeign l) = true := by
    cases d <;> decide
  intro l hl
  exact of_decide_eq_true (List.all_eq_true.mp table l hl)

theorem lowerAbbreviation_not_foreign (d : Weekday) :
    ∀ l ∈ d.lowerAbbreviation, ¬Text.IsForeign l :=
  fun l hl => lowerName_not_foreign d l (List.mem_of_mem_take hl)

theorem ofLowerName?_lowerFrom_iff {cs : List Char} {d : Weekday} :
    ofLowerName? (Text.lowerFrom [] cs) = some d ↔ d.IsName cs := by
  rw [ofLowerName?_eq_some_iff, Text.lowerFrom_eq_iff d.lowerName_not_foreign,
    Text.lowerFrom_eq_iff d.lowerAbbreviation_not_foreign]
  rfl

theorem ascii_of_isName {d : Weekday} {cs : List Char} (h : d.IsName cs) :
    ∀ c ∈ cs, c.toNat < 0x80 := by
  rcases h with h | h
  · exact Text.ascii_of_map_toLower d.lowerName_not_foreign h
  · exact Text.ascii_of_map_toLower d.lowerAbbreviation_not_foreign h

theorem not_isBlank_of_mem_lowerName (d : Weekday) : ∀ l ∈ d.lowerName, Text.isBlank l = false := by
  have table : (d.lowerName.all fun l => !Text.isBlank l) = true := by
    cases d <;> decide
  intro l hl
  simpa using List.all_eq_true.mp table l hl

theorem not_isBlank_of_isName {d : Weekday} {cs : List Char} (h : d.IsName cs) :
    ∀ c ∈ cs, Text.isBlank c = false := by
  intro c hc
  have hmem : c.toLower ∈ d.lowerName := by
    rcases h with h | h
    · exact h ▸ List.mem_map_of_mem hc
    · exact List.mem_of_mem_take (h ▸ List.mem_map_of_mem hc)
  rw [← Text.isBlank_toLower]
  exact d.not_isBlank_of_mem_lowerName c.toLower hmem

theorem not_isName_nil (d : Weekday) : ¬d.IsName [] := by
  cases d <;> decide

theorem isName_capitalName (d : Weekday) : d.IsName d.capitalName := by
  cases d <;> decide

/-- A name of a day stands in a text, and there is nothing around it but blanks. -/
def StandsIn (d : Weekday) (cs : List Char) : Prop :=
  ∃ front name back, cs = front ++ name ++ back ∧ Text.allBlank front = true ∧
    Text.allBlank back = true ∧ d.IsName name

theorem standsIn_iff {d : Weekday} {cs : List Char} : d.StandsIn cs ↔ d.IsName (Text.trim cs) := by
  constructor
  · rintro ⟨front, name, back, rfl, hfront, hback, hname⟩
    rwa [Text.trim_append hfront hback (not_isBlank_of_isName hname)]
  · intro h
    obtain ⟨front, back, hfront, hback, hcs⟩ := Text.exists_append_trim cs
    exact ⟨front, Text.trim cs, back, hcs, hfront, hback, h⟩

theorem read_eq_ok_some_iff {text : String} {d : Weekday} :
    read text = .ok (some d) ↔ d.IsName (Text.trim text.toList) := by
  unfold read
  split
  · next hblank => simp [Text.trim_eq_nil_iff.mpr hblank, not_isName_nil]
  · rw [← ofLowerName?_lowerFrom_iff]
    split
    · next e he => simp [he]
    · next he => simp [he]

theorem read_eq_ok_none_iff {text : String} :
    read text = .ok none ↔ Text.allBlank text.toList = true := by
  unfold read
  split
  · next hblank => simp [hblank]
  · next hblank => split <;> simp [hblank]

/-- Blanks around a text do not matter to what weekday it is read as. -/
theorem read_congr {cs ds : List Char} {day : Option Weekday} (h : Text.trim cs = Text.trim ds) :
    read (String.ofList cs) = .ok day ↔ read (String.ofList ds) = .ok day := by
  cases day with
  | none =>
      rw [read_eq_ok_none_iff, read_eq_ok_none_iff, String.toList_ofList, String.toList_ofList,
        ← Text.trim_eq_nil_iff, h, Text.trim_eq_nil_iff]
  | some d =>
      rw [read_eq_ok_some_iff, read_eq_ok_some_iff, String.toList_ofList, String.toList_ofList,
        h]

/-- A text that is not blank and names no day is an error that shows the text. -/
theorem read_eq_error {text : String} (hblank : Text.allBlank text.toList = false)
    (h : ∀ d : Weekday, ¬d.IsName (Text.trim text.toList)) : read text = .error ⟨text⟩ := by
  unfold read
  rw [hblank, if_neg Bool.false_ne_true]
  split
  · next d hd => exact absurd (ofLowerName?_lowerFrom_iff.mp hd) (h d)
  · rfl

theorem read_eq_error_iff {text : String} {e : Unknown} :
    read text = .error e ↔ e = ⟨text⟩ ∧ Text.allBlank text.toList = false ∧
      ∀ d : Weekday, ¬d.IsName (Text.trim text.toList) := by
  constructor
  · intro h
    have hblank : Text.allBlank text.toList = false := by
      rw [Bool.eq_false_iff]
      intro hblank
      rw [read_eq_ok_none_iff.mpr hblank] at h
      cases h
    have hname : ∀ d : Weekday, ¬d.IsName (Text.trim text.toList) := by
      intro d hd
      rw [read_eq_ok_some_iff.mpr hd] at h
      cases h
    rw [read_eq_error hblank hname, Except.error.injEq] at h
    exact ⟨h.symm, hblank, hname⟩
  · rintro ⟨rfl, hblank, hname⟩
    exact read_eq_error hblank hname

/-- A text is read as a day exactly when a name of that day stands in it, in ASCII letters of either case and
with blanks only around it. A text of blanks is read as no day, and any other text is an error that shows it.
So is each text with a character above the ASCII range that is no blank. -/
theorem read_by_name (text : String) :
    (∀ d, read text = .ok (some d) ↔ d.StandsIn text.toList) ∧
      (read text = .ok none ↔ ∀ c ∈ text.toList, Text.isBlank c = true) ∧
      (∀ e, read text = .error e ↔ e = ⟨text⟩ ∧ (∃ c ∈ text.toList, Text.isBlank c = false) ∧
        ∀ d : Weekday, ¬d.StandsIn text.toList) ∧
      ∀ c ∈ text.toList, Text.isBlank c = false → 0x80 ≤ c.toNat → read text = .error ⟨text⟩ := by
  refine ⟨?_, ?_, ?_, ?_⟩
  · intro d
    rw [read_eq_ok_some_iff, standsIn_iff]
  · rw [read_eq_ok_none_iff, Text.allBlank, List.all_eq_true]
  · intro e
    simp only [read_eq_error_iff, standsIn_iff, Text.allBlank, List.all_eq_false, Bool.not_eq_true]
  · intro c hc hvisible hhigh
    refine read_eq_error_iff.mpr ⟨rfl, ?_, ?_⟩
    · rw [Text.allBlank, List.all_eq_false]
      exact ⟨c, hc, by simp [hvisible]⟩
    · intro d hd
      have hlow := ascii_of_isName hd c (Text.mem_trim hvisible hc)
      omega

/-- Blanks of every script are left aside, and a dotless `i` is no letter of a name. -/
theorem friday_read_by_name :
    friday.StandsIn "\u2003fRi\u00a0".toList ∧ read "frıday" = .error ⟨"frıday"⟩ := by
  obtain ⟨hname, -⟩ := read_by_name "\u2003fRi\u00a0"
  obtain ⟨-, -, -, hhigh⟩ := read_by_name "frıday"
  exact ⟨(hname .friday).mp rfl, hhigh 'ı' (by decide) (by decide) (by decide)⟩

end Timetable.Weekday
