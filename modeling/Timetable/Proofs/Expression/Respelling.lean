import Mathlib.Data.List.DropRight
import Timetable.Proofs.Expression.Meaning
import Timetable.Proofs.Text.Spacing

/-!
Blanks and letter case in expressions. Main statement: two texts that differ only in the blanks at their ends,
in what rows of blanks they have elsewhere, and in the case of ASCII letters are read alike, be they accepted,
rejected or faulty.
-/
namespace Timetable.Tokens

open Text (allBlank squeeze IsSign)
open TimeOfDay (Written)

/-- The tokens with the weekday in small letters. -/
def small (t : Tokens) : Tokens :=
  { t with weekday := t.weekday.map (·.map Char.toLower) }

theorem isDayToken_map_toLower_iff {name : List Char} :
    IsDayToken (name.map Char.toLower) ↔ IsDayToken name := by
  have hletter : letterOf ∘ Char.toLower = letterOf :=
    funext (Text.apply_toLower letterOf (by decide))
  rw [IsDayToken, IsDayToken, List.map_map, hletter]

theorem wellFormed_small_iff {t : Tokens} : t.small.WellFormed ↔ t.WellFormed := by
  constructor
  · rintro ⟨hweekday, hstart, hstop⟩
    refine ⟨?_, hstart, hstop⟩
    intro name hname
    exact isDayToken_map_toLower_iff.mp (hweekday _ (by rw [small, hname, Option.map_some]))
  · rintro ⟨hweekday, hstart, hstop⟩
    refine ⟨?_, hstart, hstop⟩
    intro name hname
    obtain ⟨name', hname', rfl⟩ := Option.map_eq_some_iff.mp hname
    exact isDayToken_map_toLower_iff.mpr (hweekday name' hname')

theorem isSign_of_mem_written {cs : List Char} {s : TimeOfDay} (h : Written cs s) :
    ∀ c ∈ cs, IsSign c := by
  intro c hc
  rcases TimeOfDay.digit_or_colon_of_mem_written h c hc with hdigit | rfl
  · exact Text.isSign_of_isDigit hdigit
  · decide

theorem not_isBlank_of_mem_weekday {t : Tokens} (hform : t.WellFormed) :
    ∀ c ∈ t.weekday.getD [], Text.isBlank c = false := by
  cases hday : t.weekday with
  | none => simp
  | some name => exact not_isBlank_of_mem_dayToken (hform.weekday name hday)

/-! ### The squeezed text of an expression -/

theorem isSign_dash : ∀ c ∈ ['-'], IsSign c := by
  rw [List.forall_mem_singleton]
  decide

theorem exists_pairText_squeeze {t : Tokens} (hform : t.WellFormed) {pair : List Char}
    (h : PairText t.start t.stop pair) (back : List Char) :
    ∃ pair', PairText t.start t.stop pair' ∧ squeeze (pair ++ back) = pair' ++ squeeze back := by
  rcases t with ⟨weekday, start, stop⟩
  cases h with
  | absent => exact ⟨[], .absent, rfl⟩
  | @present start stop before after hbefore hafter =>
      obtain ⟨s, hstart⟩ := hform.start start rfl
      obtain ⟨e, hstop⟩ := hform.stop stop rfl
      obtain ⟨before', hbefore', hsqueeze⟩ :=
        Text.exists_squeeze_append hbefore (['-'] ++ (after ++ (stop ++ back)))
      obtain ⟨after', hafter', hsqueeze'⟩ := Text.exists_squeeze_append hafter (stop ++ back)
      refine ⟨start ++ before' ++ '-' :: after' ++ stop, .present hbefore' hafter', ?_⟩
      calc
        squeeze (start ++ before ++ '-' :: after ++ stop ++ back) =
            squeeze (start ++ (before ++ (['-'] ++ (after ++ (stop ++ back))))) := by simp
        _ = start ++ (before' ++ (['-'] ++ (after' ++ (stop ++ squeeze back)))) := by
            rw [Text.squeeze_signs_append (isSign_of_mem_written hstart), hsqueeze,
              Text.squeeze_signs_append isSign_dash, hsqueeze',
              Text.squeeze_signs_append (isSign_of_mem_written hstop)]
        _ = start ++ before' ++ '-' :: after' ++ stop ++ squeeze back := by simp

theorem exists_pairText_of_squeeze {t : Tokens} (hform : t.WellFormed) {pair cs rest : List Char}
    (h : PairText t.start t.stop pair) (hcs : squeeze cs = pair ++ rest) :
    ∃ pair' rest', PairText t.start t.stop pair' ∧ cs = pair' ++ rest' ∧ squeeze rest' = rest := by
  rcases t with ⟨weekday, start, stop⟩
  cases h with
  | absent => exact ⟨[], cs, .absent, rfl, hcs⟩
  | @present start stop before after hbefore hafter =>
      obtain ⟨s, hstart⟩ := hform.start start rfl
      obtain ⟨e, hstop⟩ := hform.stop stop rfl
      have hassoc : squeeze cs = start ++ (before ++ (['-'] ++ (after ++ (stop ++ rest)))) := by
        rw [hcs]
        simp
      obtain ⟨cs₁, rfl, h₁⟩ := Text.exists_signs_of_squeeze (isSign_of_mem_written hstart) hassoc
      obtain ⟨before', cs₂, rfl, hbefore', h₂⟩ := Text.exists_gap_of_squeeze hbefore h₁
      obtain ⟨cs₃, rfl, h₃⟩ := Text.exists_signs_of_squeeze isSign_dash h₂
      obtain ⟨after', cs₄, rfl, hafter', h₄⟩ := Text.exists_gap_of_squeeze hafter h₃
      obtain ⟨rest', rfl, hrest⟩ := Text.exists_signs_of_squeeze (isSign_of_mem_written hstop) h₄
      exact ⟨start ++ before' ++ '-' :: after' ++ stop, rest', .present hbefore' hafter', by simp, hrest⟩

theorem laidIn_squeeze {t : Tokens} {cs : List Char} (hlaid : t.LaidIn cs) (hform : t.WellFormed) :
    t.small.LaidIn (squeeze cs) := by
  obtain ⟨hfront, hgap, hback, hpair⟩ := hlaid
  rename_i front gap pair back
  obtain ⟨pair', hpair', hsqueeze⟩ := exists_pairText_squeeze hform hpair back
  obtain ⟨gap', hgap', hsqueeze'⟩ := Text.exists_squeeze_append hgap (pair ++ back)
  obtain ⟨front', hfront', hsqueeze''⟩ :=
    Text.exists_squeeze_append hfront (t.weekday.getD [] ++ (gap ++ (pair ++ back)))
  have hname : (t.weekday.getD []).map Char.toLower = t.small.weekday.getD [] := by
    cases hday : t.weekday <;> simp [small, hday]
  have hlaid := LaidIn.intro (t := t.small) hfront' hgap' (Text.allBlank_squeeze back ▸ hback) hpair'
  simp only [List.append_assoc] at hlaid ⊢
  rw [hsqueeze'', Text.squeeze_token_append (not_isBlank_of_mem_weekday hform), hsqueeze', hsqueeze,
    hname]
  exact hlaid

/-- What stands in the place of an optional token is a token if there is one. -/
theorem exists_token_of_map_toLower {weekday : Option (List Char)} {name : List Char}
    (h : name.map Char.toLower = weekday.getD []) :
    ∃ weekday' : Option (List Char),
      weekday'.map (·.map Char.toLower) = weekday ∧ weekday'.getD [] = name := by
  cases weekday with
  | none => exact ⟨none, rfl, (List.map_eq_nil_iff.mp h).symm⟩
  | some token => exact ⟨some name, congrArg some h, rfl⟩

theorem exists_laidIn_of_squeeze {t : Tokens} {cs : List Char} (hlaid : t.LaidIn (squeeze cs))
    (hform : t.WellFormed) : ∃ t' : Tokens, t'.LaidIn cs ∧ t'.small = t := by
  generalize hcs : squeeze cs = squeezed at hlaid
  obtain ⟨hfront, hgap, hback, hpair⟩ := hlaid
  simp only [List.append_assoc] at hcs
  obtain ⟨front', cs₁, rfl, hfront', h₁⟩ := Text.exists_gap_of_squeeze hfront hcs
  obtain ⟨name', cs₂, rfl, hname', h₂⟩ :=
    Text.exists_token_of_squeeze (not_isBlank_of_mem_weekday hform) h₁
  obtain ⟨gap', cs₃, rfl, hgap', h₃⟩ := Text.exists_gap_of_squeeze hgap h₂
  obtain ⟨pair', back', hpair', rfl, rfl⟩ := exists_pairText_of_squeeze hform hpair h₃
  obtain ⟨weekday', hweekday', rfl⟩ := exists_token_of_map_toLower hname'
  rw [Text.allBlank_squeeze] at hback
  refine ⟨⟨weekday', t.start, t.stop⟩, ?_, ?_⟩
  · have hlaid := LaidIn.intro (t := ⟨weekday', t.start, t.stop⟩) hfront' hgap' hback hpair'
    simpa only [List.append_assoc] using hlaid
  · rw [small, hweekday']

/-- A squeezed text is taken apart into the tokens of the text, their weekday in small letters. -/
theorem scan_squeeze (cs : List Char) : scan (squeeze cs) = (scan cs).map small := by
  rw [Option.ext_iff]
  intro t
  rw [scan_eq_some_iff, Option.map_eq_some_iff]
  constructor
  · rintro ⟨hlaid, hform⟩
    obtain ⟨t', hlaid', rfl⟩ := exists_laidIn_of_squeeze hlaid hform
    exact ⟨t', scan_of_laidIn hlaid' (wellFormed_small_iff.mp hform), rfl⟩
  · rintro ⟨t', hscan, rfl⟩
    obtain ⟨hlaid, hform⟩ := laidIn_of_scan hscan
    exact ⟨laidIn_squeeze hlaid hform, wellFormed_small_iff.mpr hform⟩

theorem scan_trimStart (cs : List Char) : scan (Text.trimStart cs) = scan cs := by
  have htwice : Text.trimStart (Text.trimStart cs) = Text.trimStart cs :=
    List.dropWhile_idempotent Text.isBlank cs
  rw [scan_eq, htwice, ← scan_eq]

end Timetable.Tokens

namespace Timetable.Expression

open Text (Respelled squeeze trimStart)

/-- Two texts are read alike: as the same window, as rejected for the same reason, or with a fault about a
weekday that is the same but for letter case. -/
inductive Alike : Reading → Reading → Prop
  | accepted (w : Window) : Alike (.accepted w) (.accepted w)
  | rejected (r : Rejection) : Alike (.rejected r) (.rejected r)
  | faulty {e e' : Weekday.Unknown} :
      Text.SameButCase e.text e'.text → Alike (.faulty (.weekday e)) (.faulty (.weekday e'))

theorem alike_of_not_faulty {r : Reading} (h : ∀ e, r ≠ .faulty e) : Alike r r := by
  cases r with
  | accepted w => exact .accepted w
  | rejected why => exact .rejected why
  | faulty e => exact absurd rfl (h e)

theorem denotes_of_small_eq {t t' : Tokens} {day : Option Weekday} {start stop : Option TimeOfDay}
    (h : t.small = t'.small) (hdenotes : t.Denotes day start stop) : t'.Denotes day start stop := by
  rcases t with ⟨weekday, s, e⟩
  rcases t' with ⟨weekday', s', e'⟩
  simp only [Tokens.small, Tokens.mk.injEq] at h
  obtain ⟨hweekday, rfl, rfl⟩ := h
  obtain ⟨hday, hstart, hstop⟩ := hdenotes
  refine ⟨?_, hstart, hstop⟩
  cases hday with
  | none =>
      obtain rfl : weekday' = none := by simpa using hweekday.symm
      exact .none
  | @some name d hname =>
      obtain ⟨name', rfl, hlower⟩ := Option.map_eq_some_iff.mp hweekday.symm
      refine .some ?_
      rw [Weekday.IsName, hlower]
      exact hname

theorem alike_ofTokens {t t' : Tokens} (hform : t.WellFormed) (hform' : t'.WellFormed)
    (h : t.small = t'.small) : Alike (ofTokens t) (ofTokens t') := by
  rcases Tokens.denotes_or_lookalike hform with hdenotes | ⟨name, hname, c, hc, hlook⟩
  · obtain ⟨day, start, stop, hdenotes⟩ := hdenotes
    rw [ofTokens_eq_judge hdenotes, ofTokens_eq_judge (denotes_of_small_eq h hdenotes)]
    exact alike_of_not_faulty (judge_ne_faulty day start stop)
  · have hfault := ofTokens_eq_faulty hform hname hc hlook
    rcases Tokens.denotes_or_lookalike hform' with hdenotes | ⟨name', hname', c', hc', hlook'⟩
    -- A weekday that is read stays one in other letter case, and the first one is not read.
    · obtain ⟨day, start, stop, hdenotes⟩ := hdenotes
      rw [ofTokens_eq_judge (denotes_of_small_eq h.symm hdenotes)] at hfault
      exact absurd hfault (judge_ne_faulty day start stop _)
    · rw [hfault, ofTokens_eq_faulty hform' hname' hc' hlook']
      have hweekday := congrArg Tokens.weekday h
      simp only [Tokens.small, hname, hname', Option.map_some, Option.some.injEq] at hweekday
      refine .faulty ?_
      rw [Text.SameButCase, String.toList_ofList, String.toList_ofList]
      exact hweekday

theorem alike_read_of_squeeze {text text' : String}
    (h : trimStart (squeeze text.toList) = trimStart (squeeze text'.toList)) :
    Alike (read text) (read text') := by
  have hblank : Text.allBlank text.toList = Text.allBlank text'.toList := by
    rw [Bool.eq_iff_iff, ← Text.allBlank_squeeze, ← Text.trimStart_eq_nil_iff, h,
      Text.trimStart_eq_nil_iff, Text.allBlank_squeeze]
  have hscan : (Tokens.scan text.toList).map Tokens.small =
      (Tokens.scan text'.toList).map Tokens.small := by
    rw [← Tokens.scan_squeeze, ← Tokens.scan_trimStart, h, Tokens.scan_trimStart, Tokens.scan_squeeze]
  unfold read
  rw [hblank]
  split
  · exact .rejected .blank
  · cases htext : Tokens.scan text.toList with
    | none =>
        rw [htext] at hscan
        rw [Option.map_eq_none_iff.mp hscan.symm]
        exact .rejected .grammar
    | some t =>
        rw [htext, Option.map_some] at hscan
        obtain ⟨t', htext', hsmall⟩ := Option.map_eq_some_iff.mp hscan.symm
        rw [htext']
        exact alike_ofTokens (Tokens.laidIn_of_scan htext).2 (Tokens.laidIn_of_scan htext').2 hsmall.symm

/-- A text is read like any text that comes of it by any number of changes: blanks added at an end, a row of
blanks in the place of another one, ASCII letters in another case. This holds for the texts that are
accepted, for those that are rejected and for those that lead to a fault. -/
theorem read_of_respelled {text text' : String}
    (h : Relation.ReflTransGen Respelled text.toList text'.toList) : Alike (read text) (read text') :=
  alike_read_of_squeeze (Text.trimStart_squeeze_eq h)

/-- Times that are rejected without a dash are rejected with other blanks between them, and an accepted text and
a faulty one stay what they are. -/
theorem respelled_morning :
    Relation.ReflTransGen Respelled "mon 9:00-10:00".toList "\t MON\u3000\t9:00-10:00 ".toList ∧
      Alike (read "mon 9:00-10:00") (read "\t MON\u3000\t9:00-10:00 ") ∧
      Alike (read "9:00 10:00") (read "9:00\n\n10:00") ∧ Alike (read "ſun") (read "ſUN") := by
  have hblank : Text.IsGap [' '] := by decide
  have hwide : Text.IsGap ['\u3000', '\t'] := by decide
  have hbreaks : Text.IsGap ['\n', '\n'] := by decide
  have htab : Text.allBlank ['\t', ' '] = true := by decide
  have hmorning :
      Relation.ReflTransGen Respelled "mon 9:00-10:00".toList "\t MON\u3000\t9:00-10:00 ".toList := by
    have hcase : Respelled "mon 9:00-10:00".toList "MON 9:00-10:00".toList := .letters (by decide)
    have hgap : Respelled "MON 9:00-10:00".toList "MON\u3000\t9:00-10:00".toList :=
      .between "MON".toList "9:00-10:00".toList hblank hwide
    have hfront : Respelled "MON\u3000\t9:00-10:00".toList "\t MON\u3000\t9:00-10:00".toList :=
      .front _ htab
    have hbehind : Respelled "\t MON\u3000\t9:00-10:00".toList "\t MON\u3000\t9:00-10:00 ".toList :=
      .behind _ hblank.2
    exact (((Relation.ReflTransGen.single hcase).tail hgap).tail hfront).tail hbehind
  have hlines : Respelled "9:00 10:00".toList "9:00\n\n10:00".toList :=
    .between "9:00".toList "10:00".toList hblank hbreaks
  have hsun : Respelled "ſun".toList "ſUN".toList := .letters (by decide)
  exact ⟨hmorning, read_of_respelled hmorning, read_of_respelled (.single hlines),
    read_of_respelled (.single hsun)⟩

end Timetable.Expression
