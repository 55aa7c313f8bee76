import Timetable.Expression
import Timetable.Proofs.Text.Numeral
import Timetable.Proofs.WeekdayName

/-!
The weekday of an expression. Main statements: a name is taken whole when no letter follows it, and
what is taken is read as a day exactly when it stays in the ASCII range.
-/
namespace Timetable.Tokens

/-- The small letters of the ASCII range. -/
def IsSmall (c : Char) : Prop :=
  0x61 ≤ c.toNat ∧ c.toNat ≤ 0x7a

instance (c : Char) : Decidable (IsSmall c) := by
  unfold IsSmall
  infer_instance

/-- The small letter that a character stands for; a character that stands for none is kept. -/
def letterOf (c : Char) : Char :=
  if c = 'ſ' then 's' else if c = 'ı' ∨ c = 'İ' then 'i' else c.toLower

/-- A text that is taken for the name of a weekday. -/
def IsDayToken (cs : List Char) : Prop :=
  cs.map letterOf ∈ names

instance (cs : List Char) : Decidable (IsDayToken cs) := by
  unfold IsDayToken
  infer_instance

/-- No name goes on here: the text is over, or a blank or a digit comes next. -/
def EndsName (rest : List Char) : Prop :=
  ∀ c, rest.head? = some c → Text.isBlank c = true ∨ c.isDigit = true

theorem standsFor_iff {letter c : Char} (h : IsSmall letter) :
    standsFor letter c = true ↔ letterOf c = letter := by
  have hlong : letter ≠ 'ſ' := by
    rintro rfl
    exact absurd h (by decide)
  have hdotless : letter ≠ 'ı' := by
    rintro rfl
    exact absurd h (by decide)
  have hdotted : letter ≠ 'İ' := by
    rintro rfl
    exact absurd h (by decide)
  simp only [standsFor, letterOf, Bool.or_eq_true, Bool.and_eq_true, beq_iff_eq]
  by_cases hs : c = 'ſ'
  · subst hs
    simp [hlong.symm, eq_comm]
  · by_cases hi : c = 'ı' ∨ c = 'İ'
    · rcases hi with rfl | rfl
      · simp [hdotless.symm, eq_comm]
      · simp [hdotted.symm, eq_comm]
    · simp [hs, hi]

theorem isSmall_of_mem_names {letters : List Char} (h : letters ∈ names) :
    ∀ l ∈ letters, IsSmall l := by
  have table : ∀ letters ∈ names, (letters.all fun l => decide (IsSmall l)) = true := by decide
  intro l hl
  exact of_decide_eq_true (List.all_eq_true.mp (table letters h) l hl)

theorem letterOf_of_blank_or_digit {c : Char} (h : Text.isBlank c = true ∨ c.isDigit = true) :
    ¬IsSmall (letterOf c) := by
  have hcode : c.toNat < 0x41 ∨ 0x5a < c.toNat ∧ c.toNat < 0x61 ∨ 0x7a < c.toNat := by
    rcases h with h | h
    · rw [Text.isBlank_iff] at h
      omega
    · have hrange := Char.isDigit_iff_toNat.mp h
      simp only [Char.reduceToNat] at hrange
      omega
  unfold letterOf
  split
  · next hs =>
      subst hs
      exact absurd h (by decide)
  · split
    · next hi =>
        rcases hi with rfl | rfl
        · exact absurd h (by decide)
        · exact absurd h (by decide)
    · rw [Text.toLower_eq_self (by omega)]
      rintro ⟨hlow, hhigh⟩
      omega

theorem takeName_eq_some_iff {letters cs name rest : List Char} (h : ∀ l ∈ letters, IsSmall l) :
    takeName letters cs = some (name, rest) ↔ cs = name ++ rest ∧ name.map letterOf = letters := by
  induction letters generalizing cs name with
  | nil =>
      simp only [takeName, Option.some.injEq, Prod.mk.injEq, List.map_eq_nil_iff]
      constructor
      · rintro ⟨rfl, rfl⟩
        exact ⟨rfl, rfl⟩
      · rintro ⟨rfl, rfl⟩
        exact ⟨rfl, rfl⟩
  | cons letter letters ih =>
      have hletter : IsSmall letter := h letter (by simp)
      have hletters : ∀ l ∈ letters, IsSmall l := fun l hl => h l (by simp [hl])
      cases cs with
      | nil =>
          simp only [takeName, reduceCtorEq, false_iff]
          rintro ⟨hnil, hmap⟩
          rw [(List.append_eq_nil_iff.mp hnil.symm).1] at hmap
          cases hmap
      | cons c cs =>
          rw [takeName]
          constructor
          · intro htake
            split at htake
            · next hstands =>
                obtain ⟨⟨name', rest'⟩, htail, heq⟩ := Option.map_eq_some_iff.mp htake
                cases heq
                obtain ⟨rfl, hmap⟩ := (ih hletters).mp htail
                exact ⟨rfl, by rw [List.map_cons, hmap, (standsFor_iff hletter).mp hstands]⟩
            · cases htake
          · rintro ⟨heq, hmap⟩
            obtain ⟨d, name', rfl, hd, hname'⟩ := List.map_eq_cons_iff.mp hmap
            obtain ⟨rfl, hcs⟩ := List.cons.inj heq
            rw [if_pos ((standsFor_iff hletter).mpr hd), (ih hletters).mpr ⟨hcs, hname'⟩]
            rfl

theorem eq_append_of_takeWeekday {cs name rest : List Char}
    (h : takeWeekday cs = some (name, rest)) : cs = name ++ rest ∧ IsDayToken name := by
  obtain ⟨letters, hmem, htake⟩ := List.exists_of_findSome?_eq_some h
  obtain ⟨hcs, hname⟩ := (takeName_eq_some_iff (isSmall_of_mem_names hmem)).mp htake
  refine ⟨hcs, ?_⟩
  rw [IsDayToken, hname]
  exact hmem

/-- Where a name ends, only the beginnings of that name can be taken. -/
theorem isPrefix_of_takeName {letters name rest taken left : List Char}
    (h : ∀ l ∈ letters, IsSmall l) (hrest : EndsName rest)
    (htake : takeName letters (name ++ rest) = some (taken, left)) :
    letters <+: name.map letterOf := by
  obtain ⟨heq, rfl⟩ := (takeName_eq_some_iff h).mp htake
  rcases List.append_eq_append_iff.mp heq with ⟨more, rfl, hmore⟩ | ⟨more, rfl, -⟩
  · cases more with
    | nil => simp
    | cons c more =>
        have hsmall : IsSmall (letterOf c) := h _ (by simp)
        have hhead : rest.head? = some c := by simp [hmore]
        exact absurd hsmall (letterOf_of_blank_or_digit (hrest c hhead))
  · exact (List.prefix_append taken more).map letterOf

/-- Of the beginnings of a name the whole name comes first in the list. -/
theorem find?_isPrefixOf_names {letters : List Char} (h : letters ∈ names) :
    names.find? (fun other => other.isPrefixOf letters) = some letters := by
  have table : ∀ letters ∈ names,
      names.find? (fun other => other.isPrefixOf letters) = some letters := by decide
  exact table letters h

theorem takeWeekday_append {name rest : List Char} (h : IsDayToken name)
    (hrest : EndsName rest) : takeWeekday (name ++ rest) = some (name, rest) := by
  obtain ⟨-, before, after, hnames, hbefore⟩ :=
    List.find?_eq_some_iff_append.mp (find?_isPrefixOf_names h)
  rw [takeWeekday, List.findSome?_eq_some_iff]
  refine ⟨before, name.map letterOf, after, hnames, ?_, ?_⟩
  · exact (takeName_eq_some_iff (isSmall_of_mem_names h)).mpr ⟨rfl, rfl⟩
  · intro other hother
    have hmem : other ∈ names := hnames ▸ List.mem_append_left _ hother
    rw [Option.eq_none_iff_forall_ne_some]
    rintro ⟨taken, left⟩ htake
    have hprefix := isPrefix_of_takeName (isSmall_of_mem_names hmem) hrest htake
    have hnot := hbefore other hother
    rw [List.isPrefixOf_iff_prefix.mpr hprefix] at hnot
    cases hnot

theorem takeWeekday_eq_none {rest : List Char} (h : EndsName rest) : takeWeekday rest = none := by
  rw [Option.eq_none_iff_forall_ne_some]
  rintro ⟨name, left⟩ htake
  obtain ⟨rfl, hname⟩ := eq_append_of_takeWeekday htake
  cases name with
  | nil => exact absurd hname (by decide)
  | cons c name =>
      have hsmall : IsSmall (letterOf c) := isSmall_of_mem_names hname _ (by simp)
      exact letterOf_of_blank_or_digit (h c rfl) hsmall

/-! ### Reading -/

theorem mem_names_iff {letters : List Char} :
    letters ∈ names ↔
      ∃ d : Weekday, letters = d.lowerName ∨ letters = d.lowerAbbreviation := by
  simp only [names, List.mem_flatMap, List.mem_cons, List.not_mem_nil, or_false]
  constructor
  · rintro ⟨d, -, h⟩
    exact ⟨d, h⟩
  · rintro ⟨d, h⟩
    exact ⟨d, d.mem_all, h⟩

theorem map_letterOf_of_ascii {cs : List Char} (h : ∀ c ∈ cs, c.toNat < 0x80) :
    cs.map letterOf = cs.map Char.toLower := by
  apply List.map_congr_left
  intro c hc
  have hcode := h c hc
  unfold letterOf
  split
  · next hs =>
      subst hs
      exact absurd hcode (by decide)
  · split
    · next hi =>
        rcases hi with rfl | rfl
        · exact absurd hcode (by decide)
        · exact absurd hcode (by decide)
    · rfl

theorem isDayToken_of_isName {d : Weekday} {cs : List Char} (h : d.IsName cs) :
    IsDayToken cs := by
  rw [IsDayToken, map_letterOf_of_ascii (Weekday.ascii_of_isName h), mem_names_iff]
  exact ⟨d, h⟩

/-- What is taken for a weekday is a name of one exactly when it stays in the ASCII range. -/
theorem exists_isName_iff {cs : List Char} (h : IsDayToken cs) :
    (∃ d : Weekday, d.IsName cs) ↔ ∀ c ∈ cs, c.toNat < 0x80 := by
  constructor
  · rintro ⟨d, hd⟩
    exact Weekday.ascii_of_isName hd
  · intro hascii
    rw [IsDayToken, map_letterOf_of_ascii hascii, mem_names_iff] at h
    exact h

theorem not_isBlank_of_mem_dayToken {cs : List Char} (h : IsDayToken cs) :
    ∀ c ∈ cs, Text.isBlank c = false := by
  intro c hc
  rw [Bool.eq_false_iff]
  intro hblank
  have hsmall : IsSmall (letterOf c) :=
    isSmall_of_mem_names h _ (List.mem_map.mpr ⟨c, hc, rfl⟩)
  exact letterOf_of_blank_or_digit (Or.inl hblank) hsmall

theorem exists_cons_of_dayToken {cs : List Char} (h : IsDayToken cs) :
    ∃ c ds, cs = c :: ds ∧ Text.isBlank c = false := by
  cases cs with
  | nil => exact absurd h (by decide)
  | cons c ds => exact ⟨c, ds, rfl, not_isBlank_of_mem_dayToken h c (by simp)⟩

end Timetable.Tokens

namespace Timetable.Weekday

/-- A text is read as a weekday or as none if it is a name of the weekday, or nothing, between blanks. -/
theorem read_eq_ok_iff {cs : List Char} {day : Option Weekday} :
    read (String.ofList cs) = .ok day ↔ ∃ front name back,
      cs = front ++ name.getD [] ++ back ∧ Text.allBlank front = true ∧ Text.allBlank back = true ∧
        Option.Rel (fun cs d => IsName d cs) name day := by
  cases day with
  | none =>
      rw [read_eq_ok_none_iff, String.toList_ofList]
      constructor
      · intro h
        exact ⟨cs, none, [], by simp, h, rfl, .none⟩
      · rintro ⟨front, name, back, rfl, hfront, hback, ⟨⟩⟩
        simp [Text.allBlank_append, hfront, hback]
  | some d =>
      rw [read_eq_ok_some_iff, String.toList_ofList, ← standsIn_iff]
      constructor
      · rintro ⟨front, name, back, hcs, hfront, hback, hname⟩
        exact ⟨front, some name, back, hcs, hfront, hback, .some hname⟩
      · rintro ⟨front, name, back, hcs, hfront, hback, hname⟩
        cases hname with
        | some hname => exact ⟨front, _, back, hcs, hfront, hback, hname⟩

theorem not_isBlank_of_read {cs : List Char} {day : Option Weekday}
    (h : read (String.ofList cs) = .ok day) : ∀ c ∈ Text.trim cs, Text.isBlank c = false := by
  cases day with
  | none =>
      rw [read_eq_ok_none_iff, String.toList_ofList] at h
      simp [Text.trim_eq_nil_iff.mpr h]
  | some d =>
      rw [read_eq_ok_some_iff, String.toList_ofList] at h
      exact not_isBlank_of_isName h

end Timetable.Weekday

namespace Timetable.Expression

open Tokens (IsDayToken)

theorem readWeekday_of_isName {d : Weekday} {cs : List Char} (h : d.IsName cs) :
    readWeekday (some cs) = .ok (some d) := by
  have htrim : Text.trim cs = cs := Text.trim_eq_self (Weekday.not_isBlank_of_isName h)
  have hread : Weekday.read (String.ofList cs) = .ok (some d) := by
    rw [Weekday.read_eq_ok_some_iff, String.toList_ofList, htrim]
    exact h
  rw [readWeekday, hread]
  rfl

/-- A letter above the ASCII range may stand in a weekday of an expression, but no day is read. -/
theorem readWeekday_of_not_ascii {cs : List Char} (h : IsDayToken cs) {c : Char} (hc : c ∈ cs)
    (hhigh : 0x80 ≤ c.toNat) : readWeekday (some cs) = .error (.weekday ⟨String.ofList cs⟩) := by
  have htrim : Text.trim cs = cs := Text.trim_eq_self (Tokens.not_isBlank_of_mem_dayToken h)
  have hblank : Text.allBlank cs = false := by
    obtain ⟨d, ds, rfl, hd⟩ := Tokens.exists_cons_of_dayToken h
    exact Text.allBlank_cons_of_not_isBlank hd ds
  have hread : Weekday.read (String.ofList cs) = .error ⟨String.ofList cs⟩ := by
    apply Weekday.read_eq_error
    · rwa [String.toList_ofList]
    · intro d hd
      rw [String.toList_ofList, htrim] at hd
      have hlow := Weekday.ascii_of_isName hd c hc
      omega
  rw [readWeekday, hread]
  rfl

/-- An optional weekday token stands for an optional day. -/
theorem readWeekday_eq_ok_iff {token : Option (List Char)}
    (h : ∀ cs, token = some cs → IsDayToken cs) {day : Option Weekday} :
    readWeekday token = .ok day ↔ Option.Rel (fun cs d => Weekday.IsName d cs) token day := by
  cases token with
  | none =>
      rw [readWeekday, Except.ok.injEq]
      constructor
      · rintro rfl
        exact .none
      · rintro ⟨⟩
        rfl
  | some cs =>
      constructor
      · intro hread
        by_cases hascii : ∀ c ∈ cs, c.toNat < 0x80
        · obtain ⟨d, hd⟩ := (Tokens.exists_isName_iff (h cs rfl)).mpr hascii
          rw [readWeekday_of_isName hd, Except.ok.injEq] at hread
          subst hread
          exact .some hd
        · simp only [not_forall, Nat.not_lt] at hascii
          obtain ⟨c, hc, hhigh⟩ := hascii
          rw [readWeekday_of_not_ascii (h cs rfl) hc hhigh] at hread
          cases hread
      · rintro ⟨hd⟩
        exact readWeekday_of_isName hd

end Timetable.Expression
