import Timetable.Proofs.Expression.Grammar

/-!
What the tokens of an expression stand for, and how the reading of a text follows from it. Main
statement: a text in which tokens are laid out is read as what the judge says about the weekday and
the times that they stand for.
-/
namespace Timetable.Tokens

open TimeOfDay (Written)

/-- The tokens stand for an optional weekday and two optional times. -/
structure Denotes (t : Tokens) (day : Option Weekday) (start stop : Option TimeOfDay) : Prop where
  weekday : Option.Rel (fun cs d => Weekday.IsName d cs) t.weekday day
  start : Option.Rel Written t.start start
  stop : Option.Rel Written t.stop stop

/-- The tokens stand for the fields of a window. -/
def Spells (t : Tokens) (w : Window) : Prop :=
  t.Denotes w.weekday (w.span.map (·.start)) (w.span.map (·.stop))

/-- A letter that is taken for another one in the name of a weekday: a long `s`, an `i` without its
dot, or a capital `i` with a dot. -/
def IsLookalike (c : Char) : Prop :=
  c = 'ſ' ∨ c = 'ı' ∨ c = 'İ'

theorem isLookalike_iff {name : List Char} (h : IsDayToken name) {c : Char} (hc : c ∈ name) :
    IsLookalike c ↔ 0x80 ≤ c.toNat := by
  constructor
  · rintro (rfl | rfl | rfl)
    · decide
    · decide
    · decide
  · intro hhigh
    have hsmall : IsSmall (letterOf c) :=
      isSmall_of_mem_names h _ (List.mem_map.mpr ⟨c, hc, rfl⟩)
    unfold letterOf at hsmall
    split at hsmall
    · next hs => exact Or.inl hs
    · split at hsmall
      · next hi => exact Or.inr hi
      · rw [Text.toLower_eq_self (by omega)] at hsmall
        have htop := hsmall.2
        omega

section Rel

variable {α β : Type} {r : α → β → Prop} {token : Option α} {meaning : Option β}

theorem exists_meaning (h : Option.Rel r token meaning) {a : α} (ha : token = some a) :
    ∃ b, meaning = some b ∧ r a b := by
  subst ha
  cases h with
  | some h => exact ⟨_, rfl, h⟩

theorem exists_token (h : Option.Rel r token meaning) {b : β} (hb : meaning = some b) :
    ∃ a, token = some a ∧ r a b := by
  subst hb
  cases h with
  | some h => exact ⟨_, rfl, h⟩

end Rel

theorem Denotes.wellFormed {t : Tokens} {day : Option Weekday} {start stop : Option TimeOfDay}
    (h : t.Denotes day start stop) : t.WellFormed := by
  refine ⟨?_, ?_, ?_⟩
  · intro cs hcs
    obtain ⟨d, -, hname⟩ := exists_meaning h.weekday hcs
    exact isDayToken_of_isName hname
  · intro cs hcs
    obtain ⟨s, -, hwritten⟩ := exists_meaning h.start hcs
    exact ⟨s, hwritten⟩
  · intro cs hcs
    obtain ⟨s, -, hwritten⟩ := exists_meaning h.stop hcs
    exact ⟨s, hwritten⟩

theorem exists_rel_written {token : Option (List Char)}
    (h : ∀ cs, token = some cs → ∃ s, Written cs s) : ∃ time, Option.Rel Written token time := by
  cases token with
  | none => exact ⟨none, .none⟩
  | some cs =>
      obtain ⟨s, hs⟩ := h cs rfl
      exact ⟨some s, .some hs⟩

/-- Well-formed tokens stand for something unless the weekday is spelled with a lookalike. -/
theorem denotes_or_lookalike {t : Tokens} (h : t.WellFormed) :
    (∃ day start stop, t.Denotes day start stop) ∨
      ∃ name, t.weekday = some name ∧ ∃ c ∈ name, IsLookalike c := by
  obtain ⟨start, hstart⟩ := exists_rel_written h.start
  obtain ⟨stop, hstop⟩ := exists_rel_written h.stop
  cases hday : t.weekday with
  | none => exact Or.inl ⟨none, start, stop, by rw [hday]; exact .none, hstart, hstop⟩
  | some name =>
      have htoken := h.weekday name hday
      by_cases hascii : ∀ c ∈ name, c.toNat < 0x80
      · obtain ⟨d, hd⟩ := (exists_isName_iff htoken).mpr hascii
        exact Or.inl ⟨some d, start, stop, by rw [hday]; exact .some hd, hstart, hstop⟩
      · simp only [not_forall, Nat.not_lt] at hascii
        obtain ⟨c, hc, hhigh⟩ := hascii
        exact Or.inr ⟨name, rfl, c, hc, (isLookalike_iff htoken hc).mpr hhigh⟩

end Timetable.Tokens

namespace Timetable.Expression

theorem ofTokens_eq_judge {t : Tokens} {day : Option Weekday} {start stop : Option TimeOfDay}
    (h : t.Denotes day start stop) : ofTokens t = judge day start stop := by
  have hform := h.wellFormed
  rw [ofTokens, (readWeekday_eq_ok_iff hform.weekday).mpr h.weekday]
  simp only [(readTime_eq_ok_iff hform.start).mpr h.start,
    (readTime_eq_ok_iff hform.stop).mpr h.stop]

theorem ofTokens_eq_faulty {t : Tokens} (h : t.WellFormed) {name : List Char}
    (hname : t.weekday = some name) {c : Char} (hc : c ∈ name) (hlook : Tokens.IsLookalike c) :
    ofTokens t = .faulty (.weekday ⟨String.ofList name⟩) := by
  have htoken := h.weekday name hname
  have hhigh := (Tokens.isLookalike_iff htoken hc).mp hlook
  rw [ofTokens, hname, readWeekday_of_not_ascii htoken hc hhigh]

theorem judge_pair (day : Option Weekday) (s e : TimeOfDay) :
    judge day (some s) (some e) =
      if h : s < e then .accepted ⟨day, some ⟨s, e, h⟩⟩ else .rejected .order := by
  by_cases h : s < e
  · simp [judge, Window.make, h]
  · simp [judge, h]

theorem judge_unpaired (day : Option Weekday) (t : TimeOfDay) :
    judge day (some t) none = .rejected .unpaired ∧
      judge day none (some t) = .rejected .unpaired := by
  constructor
  · simp [judge]
  · simp [judge]

/-- The judge accepts a window exactly when the window has the given fields and is not empty. -/
theorem judge_eq_accepted_iff {day : Option Weekday} {start stop : Option TimeOfDay} {w : Window} :
    judge day start stop = .accepted w ↔
      w ≠ .empty ∧ w.weekday = day ∧ w.span.map (·.start) = start ∧
        w.span.map (·.stop) = stop := by
  constructor
  · intro h
    cases start with
    | none =>
        cases stop with
        | none =>
            cases day with
            | none => cases h
            | some d =>
                cases h
                exact ⟨by simp [Window.empty], rfl, rfl, rfl⟩
        | some e =>
            rw [(judge_unpaired day e).2] at h
            cases h
    | some s =>
        cases stop with
        | none =>
            rw [(judge_unpaired day s).1] at h
            cases h
        | some e =>
            rw [judge_pair] at h
            split at h
            · cases h
              exact ⟨by simp [Window.empty], rfl, rfl, rfl⟩
            · cases h
  · rintro ⟨hne, rfl, rfl, rfl⟩
    rcases w with ⟨day, span⟩
    cases span with
    | none =>
        cases day with
        | none => exact absurd rfl hne
        | some d => rfl
    | some s =>
        simp only [Option.map_some]
        rw [judge_pair, dif_pos s.start_lt_stop]

theorem judge_ne_faulty (day : Option Weekday) (start stop : Option TimeOfDay) (e : Fault) :
    judge day start stop ≠ .faulty e := by
  cases start with
  | none =>
      cases stop with
      | none => cases day <;> exact Reading.noConfusion
      | some t =>
          rw [(judge_unpaired day t).2]
          exact Reading.noConfusion
  | some s =>
      cases stop with
      | none =>
          rw [(judge_unpaired day s).1]
          exact Reading.noConfusion
      | some t =>
          rw [judge_pair]
          split
          · exact Reading.noConfusion
          · exact Reading.noConfusion

/-! ### Texts -/

/-- A text with a token in it is not blank. -/
theorem not_allBlank_of_laidIn {t : Tokens} {cs : List Char} (hlaid : t.LaidIn cs)
    (hform : t.WellFormed) (h : t.weekday.isSome ∨ t.start.isSome) :
    Text.allBlank cs = false := by
  obtain ⟨hfront, hgap, hback, hpair⟩ := hlaid
  rcases t with ⟨weekday, start, stop⟩
  rcases h with h | h
  · obtain ⟨name, rfl⟩ := Option.isSome_iff_exists.mp h
    obtain ⟨c, ds, rfl, hc⟩ := Tokens.exists_cons_of_dayToken (hform.weekday name rfl)
    simp [Text.allBlank_append, Text.allBlank_cons_of_not_isBlank hc]
  · cases hpair with
    | absent => cases h
    | present hbefore hafter =>
        obtain ⟨s, hstart⟩ := hform.start _ rfl
        obtain ⟨c, ds, rfl, hdigit⟩ := TimeOfDay.exists_cons_of_written hstart
        have hc := Text.not_isBlank_of_isDigit hdigit
        simp [Text.allBlank_append, Text.allBlank_cons_of_not_isBlank hc]

theorem read_eq_ofTokens {text : String} {t : Tokens} (hlaid : t.LaidIn text.toList)
    (hform : t.WellFormed) (h : t.weekday.isSome ∨ t.start.isSome) :
    read text = ofTokens t := by
  rw [read, not_allBlank_of_laidIn hlaid hform h, Tokens.scan_of_laidIn hlaid hform]
  rfl

/-- Tokens that are laid out in a text decide how the text is read. -/
theorem read_eq_judge {text : String} {t : Tokens} {day : Option Weekday}
    {start stop : Option TimeOfDay} (hlaid : t.LaidIn text.toList)
    (hdenotes : t.Denotes day start stop) (h : day.isSome ∨ start.isSome) :
    read text = judge day start stop := by
  have hsome : t.weekday.isSome ∨ t.start.isSome := by
    rcases h with h | h
    · obtain ⟨d, hd⟩ := Option.isSome_iff_exists.mp h
      obtain ⟨name, hname, -⟩ := Tokens.exists_token hdenotes.weekday hd
      exact Or.inl (by simp [hname])
    · obtain ⟨s, hs⟩ := Option.isSome_iff_exists.mp h
      obtain ⟨start, hstart, -⟩ := Tokens.exists_token hdenotes.start hs
      exact Or.inr (by simp [hstart])
  rw [read_eq_ofTokens hlaid hdenotes.wellFormed hsome, ofTokens_eq_judge hdenotes]

/-- Only the tokens of a text can lead to anything else than a rejection. -/
theorem exists_tokens_of_read {text : String} {r : Reading} (h : read text = r)
    (hr : ∀ why, r ≠ .rejected why) :
    ∃ t : Tokens, t.LaidIn text.toList ∧ t.WellFormed ∧ ofTokens t = r := by
  unfold read at h
  split at h
  · exact absurd h.symm (hr .blank)
  · split at h
    · exact absurd h.symm (hr .grammar)
    · next t hscan =>
        obtain ⟨hlaid, hform⟩ := Tokens.laidIn_of_scan hscan
        exact ⟨t, hlaid, hform, h⟩

theorem isSome_of_ne_empty {w : Window} (h : w ≠ .empty) :
    w.weekday.isSome ∨ (w.span.map (·.start)).isSome := by
  rcases w with ⟨_ | d, _ | s⟩
  · exact absurd rfl h
  · exact Or.inr rfl
  · exact Or.inl rfl
  · exact Or.inl rfl

/-- A text is accepted for the window that its tokens spell. -/
theorem read_eq_accepted_iff {text : String} {w : Window} :
    read text = .accepted w ↔ w ≠ .empty ∧ ∃ t : Tokens, t.LaidIn text.toList ∧ t.Spells w := by
  constructor
  · intro h
    obtain ⟨t, hlaid, hform, htokens⟩ := exists_tokens_of_read h (by simp)
    rcases Tokens.denotes_or_lookalike hform with hdenotes | ⟨name, hname, c, hc, hlook⟩
    · obtain ⟨day, start, stop, hdenotes⟩ := hdenotes
      rw [ofTokens_eq_judge hdenotes] at htokens
      obtain ⟨hne, rfl, rfl, rfl⟩ := judge_eq_accepted_iff.mp htokens
      exact ⟨hne, t, hlaid, hdenotes⟩
    · rw [ofTokens_eq_faulty hform hname hc hlook] at htokens
      cases htokens
  · rintro ⟨hne, t, hlaid, hspells⟩
    rw [read_eq_judge hlaid hspells (isSome_of_ne_empty hne), judge_eq_accepted_iff]
    exact ⟨hne, rfl, rfl, rfl⟩

end Timetable.Expression
