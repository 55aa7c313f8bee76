import Timetable.Proofs.Expression.Meaning
import Timetable.Window.Strict

/-!
Which texts are accepted, and which lead to a fault. Main statements: the accepted texts are the
sentences of the grammar, each with one choice of tokens, and a fault arises exactly where a weekday
is spelled with a lookalike letter.
-/
namespace Timetable.Tokens

open TimeOfDay (Written)

/-- The tokens of a sentence: the weekday is a name in ASCII letters, the times are in order, and
there is a weekday or a pair of times. -/
structure IsSentence (t : Tokens) : Prop where
  weekday : ∀ name, t.weekday = some name → ∃ d : Weekday, d.IsName name
  times : ∀ start stop, t.start = some start → t.stop = some stop →
    ∃ s e, Written start s ∧ Written stop e ∧ s < e
  nonempty : t.weekday.isSome ∨ t.start.isSome

theorem isSentence_of_spells {t : Tokens} {w : Window} (hne : w ≠ .empty) (h : t.Spells w) :
    t.IsSentence := by
  refine ⟨?_, ?_, ?_⟩
  · intro name hname
    obtain ⟨d, -, hd⟩ := exists_meaning h.weekday hname
    exact ⟨d, hd⟩
  · intro start stop hstart hstop
    obtain ⟨s, hs, hwritten⟩ := exists_meaning h.start hstart
    obtain ⟨e, he, hwritten'⟩ := exists_meaning h.stop hstop
    obtain ⟨span, hspan, rfl⟩ := Option.map_eq_some_iff.mp hs
    rw [hspan, Option.map_some, Option.some.injEq] at he
    subst he
    exact ⟨span.start, span.stop, hwritten, hwritten', span.start_lt_stop⟩
  · rcases Expression.isSome_of_ne_empty hne with hsome | hsome
    · obtain ⟨d, hd⟩ := Option.isSome_iff_exists.mp hsome
      obtain ⟨name, hname, -⟩ := exists_token h.weekday hd
      exact Or.inl (by simp [hname])
    · obtain ⟨s, hs⟩ := Option.isSome_iff_exists.mp hsome
      obtain ⟨start, hstart, -⟩ := exists_token h.start hs
      exact Or.inr (by simp [hstart])

theorem exists_spells_of_isSentence {t : Tokens} {cs : List Char} (hlaid : t.LaidIn cs)
    (h : t.IsSentence) : ∃ w : Window, w ≠ .empty ∧ t.Spells w := by
  obtain ⟨-, -, -, hpair⟩ := hlaid
  obtain ⟨hweekday, htimes, hsome⟩ := h
  rcases t with ⟨weekday, start, stop⟩
  obtain ⟨day, hday, hdaySome⟩ : ∃ day : Option Weekday,
      Option.Rel (fun cs d => Weekday.IsName d cs) weekday day ∧ weekday.isSome = day.isSome := by
    cases weekday with
    | none => exact ⟨none, .none, rfl⟩
    | some name =>
        obtain ⟨d, hd⟩ := hweekday name rfl
        exact ⟨some d, .some hd, rfl⟩
  cases hpair with
  | absent =>
      refine ⟨⟨day, none⟩, ?_, hday, .none, .none⟩
      rintro ⟨⟩
      simp [hdaySome] at hsome
  | @present start stop _ _ _ _ =>
      obtain ⟨s, e, hs, he, hlt⟩ := htimes start stop rfl rfl
      exact ⟨⟨day, some ⟨s, e, hlt⟩⟩, by simp [Window.empty], hday, .some hs, .some he⟩

end Timetable.Tokens

namespace Timetable.Expression

open TimeOfDay (Written)

/-- A text is accepted exactly when it is a sentence of the grammar. The window has the weekday and
the times that the tokens of the text stand for, and no other tokens make the text a sentence. -/
theorem accepted_iff_sentence (text : String) :
    ((∃ w, read text = .accepted w) ↔ ∃ t : Tokens, t.LaidIn text.toList ∧ t.IsSentence) ∧
      ∀ w, read text = .accepted w →
        ∃ t : Tokens, (t.LaidIn text.toList ∧ t.IsSentence ∧ t.Spells w) ∧
          ∀ t' : Tokens, t'.LaidIn text.toList → t'.IsSentence → t' = t := by
  constructor
  · constructor
    · rintro ⟨w, hread⟩
      obtain ⟨hne, t, hlaid, hspells⟩ := read_eq_accepted_iff.mp hread
      exact ⟨t, hlaid, Tokens.isSentence_of_spells hne hspells⟩
    · rintro ⟨t, hlaid, hsentence⟩
      obtain ⟨w, hne, hspells⟩ := Tokens.exists_spells_of_isSentence hlaid hsentence
      exact ⟨w, read_eq_accepted_iff.mpr ⟨hne, t, hlaid, hspells⟩⟩
  · intro w hread
    obtain ⟨hne, t, hlaid, hspells⟩ := read_eq_accepted_iff.mp hread
    refine ⟨t, ⟨hlaid, Tokens.isSentence_of_spells hne hspells, hspells⟩, ?_⟩
    intro t' hlaid' hsentence'
    -- Both are what taking the text apart gives.
    obtain ⟨w', -, hspells'⟩ := Tokens.exists_spells_of_isSentence hlaid' hsentence'
    have hscan := Tokens.scan_of_laidIn hlaid hspells.wellFormed
    rw [Tokens.scan_of_laidIn hlaid' hspells'.wellFormed] at hscan
    exact Option.some.inj hscan

/-- One text and its window, with blanks around the tokens and between some of them. -/
theorem sentence_monday_morning :
    ∃ t : Tokens, (t.LaidIn " mOn9:00 -10:30".toList ∧ t.IsSentence ∧
        t.Spells ⟨some .monday, some ⟨⟨32400000000, by decide⟩, ⟨37800000000, by decide⟩,
          by decide⟩⟩) ∧
      ∀ t' : Tokens, t'.LaidIn " mOn9:00 -10:30".toList → t'.IsSentence → t' = t :=
  (accepted_iff_sentence " mOn9:00 -10:30").2 _ (by decide)

/-! ### Faults -/

theorem ofTokens_eq_faulty_iff {t : Tokens} (h : t.WellFormed) {e : Fault} :
    ofTokens t = .faulty e ↔ ∃ name, t.weekday = some name ∧
      (∃ c ∈ name, Tokens.IsLookalike c) ∧ e = .weekday ⟨String.ofList name⟩ := by
  constructor
  · intro hfault
    rcases Tokens.denotes_or_lookalike h with hdenotes | ⟨name, hname, c, hc, hlook⟩
    · obtain ⟨day, start, stop, hdenotes⟩ := hdenotes
      rw [ofTokens_eq_judge hdenotes] at hfault
      exact absurd hfault (judge_ne_faulty day start stop e)
    · rw [ofTokens_eq_faulty h hname hc hlook, Reading.faulty.injEq] at hfault
      exact ⟨name, hname, ⟨c, hc, hlook⟩, hfault.symm⟩
  · rintro ⟨name, hname, ⟨c, hc, hlook⟩, rfl⟩
    exact ofTokens_eq_faulty h hname hc hlook

theorem read_eq_faulty_iff {text : String} {e : Fault} :
    read text = .faulty e ↔ ∃ t : Tokens, t.LaidIn text.toList ∧ t.WellFormed ∧
      ∃ name, t.weekday = some name ∧ (∃ c ∈ name, Tokens.IsLookalike c) ∧
        e = .weekday ⟨String.ofList name⟩ := by
  constructor
  · intro hread
    obtain ⟨t, hlaid, hform, htokens⟩ := exists_tokens_of_read hread (by simp)
    exact ⟨t, hlaid, hform, (ofTokens_eq_faulty_iff hform).mp htokens⟩
  · rintro ⟨t, hlaid, hform, name, hname, hfault⟩
    rw [read_eq_ofTokens hlaid hform (Or.inl (by simp [hname]))]
    exact (ofTokens_eq_faulty_iff hform).mpr ⟨name, hname, hfault⟩

theorem exists_readWeekday_iff {name : List Char} (h : Tokens.IsDayToken name) :
    (∃ d, readWeekday (some name) = .ok (some d)) ↔ ∀ c ∈ name, ¬Tokens.IsLookalike c := by
  have hform : ∀ cs, some name = some cs → Tokens.IsDayToken cs := by
    rintro cs ⟨⟩
    exact h
  have hread : ∀ d, readWeekday (some name) = .ok (some d) ↔ Weekday.IsName d name := by
    intro d
    rw [readWeekday_eq_ok_iff hform, Option.rel_some_some]
  simp only [hread]
  rw [Tokens.exists_isName_iff h]
  constructor
  · intro hascii c hc hlook
    have hhigh := (Tokens.isLookalike_iff h hc).mp hlook
    have hlow := hascii c hc
    omega
  · intro hnot c hc
    by_cases hlow : c.toNat < 0x80
    · exact hlow
    · exact absurd ((Tokens.isLookalike_iff h hc).mpr (by omega)) (hnot c hc)

theorem exists_readTime {token : List Char} (h : ∃ s, Written token s) :
    ∃ s, readTime (some token) = .ok (some s) := by
  obtain ⟨s, hs⟩ := h
  have hform : ∀ cs, some token = some cs → ∃ s, Written cs s := by
    rintro cs ⟨⟩
    exact ⟨s, hs⟩
  exact ⟨s, (readTime_eq_ok_iff hform).mpr (.some hs)⟩

/-- A text leads to a fault exactly when it is an expression whose weekday is spelled with a
lookalike letter, and the fault shows the weekday as it is spelled. Apart from that every token that
is taken from a text is read, and what is read is accepted or rejected. -/
theorem faulty_iff_lookalike (text : String) :
    (∀ e, read text = .faulty e ↔ ∃ t : Tokens, t.LaidIn text.toList ∧ t.WellFormed ∧
      ∃ name, t.weekday = some name ∧ (∃ c ∈ name, Tokens.IsLookalike c) ∧
        e = .weekday ⟨String.ofList name⟩) ∧
      (∀ t, Tokens.scan text.toList = some t →
        (∀ name, t.weekday = some name →
          ((∃ d, readWeekday (some name) = .ok (some d)) ↔
            ∀ c ∈ name, ¬Tokens.IsLookalike c)) ∧
        (∀ token, t.start = some token → ∃ s, readTime (some token) = .ok (some s)) ∧
        ∀ token, t.stop = some token → ∃ s, readTime (some token) = .ok (some s)) ∧
      (∀ day start stop e, judge day start stop ≠ .faulty e) ∧
      readValue .null = .rejected .blank := by
  refine ⟨fun e => read_eq_faulty_iff, ?_, judge_ne_faulty, rfl⟩
  intro t hscan
  obtain ⟨-, hform⟩ := Tokens.scan_eq_some_iff.mp hscan
  refine ⟨?_, ?_, ?_⟩
  · intro name hname
    exact exists_readWeekday_iff (hform.weekday name hname)
  · intro token htoken
    exact exists_readTime (hform.start token htoken)
  · intro token htoken
    exact exists_readTime (hform.stop token htoken)

/-- A long `s` at the front of a weekday is taken from the text and not read. -/
theorem faulty_long_s :
    (∃ t : Tokens, t.LaidIn "ſun 9:00-10:00".toList ∧ t.WellFormed ∧
      ∃ name, t.weekday = some name ∧ (∃ c ∈ name, Tokens.IsLookalike c) ∧
        Fault.weekday ⟨"ſun"⟩ = .weekday ⟨String.ofList name⟩) ∧
      ¬∃ d, readWeekday (some "ſun".toList) = .ok (some d) := by
  obtain ⟨hfault, hscan, -⟩ := faulty_iff_lookalike "ſun 9:00-10:00"
  refine ⟨(hfault (.weekday ⟨"ſun"⟩)).mp (by decide), ?_⟩
  intro hread
  obtain ⟨hweekday, -⟩ :=
    hscan ⟨some "ſun".toList, some "9:00".toList, some "10:00".toList⟩ (by decide)
  exact (hweekday "ſun".toList rfl).mp hread 'ſ' (by decide) (Or.inl rfl)

theorem exists_faulty : ¬∀ text e, read text ≠ .faulty e := by
  intro h
  exact h "ſun" (.weekday ⟨"ſun"⟩) (by decide)

end Timetable.Expression
