import Timetable.Proofs.Expression.ClockToken
import Timetable.Proofs.Expression.DayToken

/-!
The grammar of expressions: an optional weekday, then an optional pair of times with a dash between
them, and blanks around the tokens. Main statement: taking a text apart finds exactly the tokens
that the grammar lays into it. So no text can be laid out in two ways.
-/
namespace Timetable.Tokens

open Text (allBlank trimStart)
open TimeOfDay (Written)

/-- The pair of times in an expression: nothing, or two tokens and a dash with blanks around it. -/
inductive PairText : Option (List Char) → Option (List Char) → List Char → Prop
  | absent : PairText none none []
  | present {start stop before after : List Char} :
      allBlank before = true → allBlank after = true →
        PairText (some start) (some stop) (start ++ before ++ '-' :: after ++ stop)

/-- The tokens stand in a text in their order, and blanks surround them. -/
inductive LaidIn (t : Tokens) : List Char → Prop
  | intro {front gap pair back : List Char} :
      allBlank front = true → allBlank gap = true → allBlank back = true →
        PairText t.start t.stop pair →
          LaidIn t (front ++ t.weekday.getD [] ++ gap ++ pair ++ back)

/-- Each token that is there has its form. -/
structure WellFormed (t : Tokens) : Prop where
  weekday : ∀ cs, t.weekday = some cs → IsDayToken cs
  start : ∀ cs, t.start = some cs → ∃ s, Written cs s
  stop : ∀ cs, t.stop = some cs → ∃ s, Written cs s

/-! ### The pair of times -/

theorem pairText_of_takeTimes {cs start stop rest : List Char}
    (h : takeTimes cs = some ((start, stop), rest)) :
    ∃ pair, PairText (some start) (some stop) pair ∧ cs = pair ++ rest ∧
      (∃ s, Written start s) ∧ ∃ s, Written stop s := by
  unfold takeTimes at h
  split at h
  · cases h
  · next start' cs₁ htake =>
      obtain ⟨rfl, hstart⟩ := written_of_takeTime htake
      split at h
      · next cs₂ hdash =>
          split at h
          · cases h
          · next stop' cs₃ htake' =>
              cases h
              obtain ⟨before, hbefore, heq⟩ := Text.exists_append_trimStart cs₁
              obtain ⟨after, hafter, heq'⟩ := Text.exists_append_trimStart cs₂
              obtain ⟨hrest, hstop⟩ := written_of_takeTime htake'
              refine ⟨start ++ before ++ '-' :: after ++ stop, .present hbefore hafter, ?_,
                hstart, hstop⟩
              rw [heq, hdash, heq', hrest]
              simp
      · cases h

theorem head?_append_ne_colon {gap rest : List Char} (hgap : allBlank gap = true)
    (hrest : rest.head? ≠ some ':') : (gap ++ rest).head? ≠ some ':' := by
  cases gap with
  | nil => exact hrest
  | cons c gap =>
      intro h
      have hc : c = ':' := Option.some.inj h
      subst hc
      rw [Text.allBlank_cons_of_not_isBlank (by decide)] at hgap
      cases hgap

theorem trimStart_written {token : List Char} {t : TimeOfDay} (h : Written token t)
    (rest : List Char) : trimStart (token ++ rest) = token ++ rest := by
  obtain ⟨c, ds, rfl, hdigit⟩ := TimeOfDay.exists_cons_of_written h
  exact Text.trimStart_cons_of_not_isBlank (Text.not_isBlank_of_isDigit hdigit) _

theorem takeTimes_append {start stop pair rest : List Char} {s e : TimeOfDay}
    (h : PairText (some start) (some stop) pair) (hstart : Written start s)
    (hstop : Written stop e) (hrest : rest.head? ≠ some ':') :
    takeTimes (pair ++ rest) = some ((start, stop), rest) := by
  cases h with
  | @present _ _ before after hbefore hafter =>
      have hassoc : start ++ before ++ '-' :: after ++ stop ++ rest =
          start ++ (before ++ '-' :: (after ++ (stop ++ rest))) := by
        simp
      have takenStart : takeTime (start ++ (before ++ '-' :: (after ++ (stop ++ rest)))) =
          some (start, before ++ '-' :: (after ++ (stop ++ rest))) :=
        takeTime_append hstart (head?_append_ne_colon hbefore (by simp))
      have hdash : trimStart (before ++ '-' :: (after ++ (stop ++ rest))) =
          '-' :: (after ++ (stop ++ rest)) := by
        rw [Text.trimStart_append hbefore, Text.trimStart_cons_of_not_isBlank (by decide)]
      have hgap : trimStart (after ++ (stop ++ rest)) = stop ++ rest := by
        rw [Text.trimStart_append hafter, trimStart_written hstop]
      rw [hassoc, takeTimes, takenStart]
      simp only [hdash, hgap, takeTime_append hstop hrest]

/-! ### The whole expression -/

/-- The rest of an expression after its weekday. -/
def scanPair (weekday : Option (List Char)) (cs : List Char) : Option Tokens :=
  let cs := trimStart cs
  if cs.isEmpty then some ⟨weekday, none, none⟩
  else match takeTimes cs with
    | some ((start, stop), rest) =>
        if allBlank rest then some ⟨weekday, some start, some stop⟩ else none
    | none => none

theorem scan_eq (cs : List Char) :
    scan cs = match takeWeekday (trimStart cs) with
      | some (name, rest) => scanPair (some name) rest
      | none => scanPair none (trimStart cs) := by
  simp only [scan, scanPair]
  cases takeWeekday (trimStart cs) with
  | none => rfl
  | some taken => rfl

theorem eq_of_scanPair {weekday : Option (List Char)} {cs : List Char} {t : Tokens}
    (h : scanPair weekday cs = some t) :
    t.weekday = weekday ∧ ∃ gap pair back, allBlank gap = true ∧ allBlank back = true ∧
      PairText t.start t.stop pair ∧ cs = gap ++ pair ++ back ∧
      (∀ token, t.start = some token → ∃ s, Written token s) ∧
      ∀ token, t.stop = some token → ∃ s, Written token s := by
  obtain ⟨gap, hgap, hcs⟩ := Text.exists_append_trimStart cs
  unfold scanPair at h
  simp only at h
  split at h
  · next hempty =>
      cases h
      rw [List.isEmpty_iff.mp hempty] at hcs
      exact ⟨rfl, gap, [], [], hgap, rfl, .absent, by simpa using hcs, by simp, by simp⟩
  · split at h
    · next start stop rest htake =>
        split at h
        · next hback =>
            cases h
            obtain ⟨pair, hpair, heq, hstart, hstop⟩ := pairText_of_takeTimes htake
            refine ⟨rfl, gap, pair, rest, hgap, hback, hpair, ?_, ?_, ?_⟩
            · rw [hcs, heq, List.append_assoc]
            · rintro token ⟨⟩
              exact hstart
            · rintro token ⟨⟩
              exact hstop
        · cases h
    · cases h

theorem scanPair_append {t : Tokens} (hform : t.WellFormed) {gap pair back : List Char}
    (hgap : allBlank gap = true) (hback : allBlank back = true)
    (hpair : PairText t.start t.stop pair) :
    scanPair t.weekday (gap ++ pair ++ back) = some t := by
  rcases t with ⟨weekday, start, stop⟩
  cases hpair with
  | absent =>
      have hblank : allBlank (gap ++ [] ++ back) = true := by
        simp [Text.allBlank_append, hgap, hback]
      simp only [scanPair, Text.trimStart_eq_nil_iff.mpr hblank]
      rfl
  | @present start stop before after hbefore hafter =>
      obtain ⟨s, hstart⟩ := hform.start start rfl
      obtain ⟨e, hstop⟩ := hform.stop stop rfl
      have hhead : (back ++ []).head? ≠ some ':' := head?_append_ne_colon hback (by simp)
      rw [List.append_nil] at hhead
      have htaken := takeTimes_append (.present hbefore hafter) hstart hstop hhead
      have hassoc : start ++ before ++ '-' :: after ++ stop ++ back =
          start ++ (before ++ '-' :: after ++ stop ++ back) := by
        simp
      have htrim : trimStart (gap ++ (start ++ before ++ '-' :: after ++ stop) ++ back) =
          start ++ before ++ '-' :: after ++ stop ++ back := by
        rw [List.append_assoc, Text.trimStart_append hgap, hassoc, trimStart_written hstart]
      have hne : (start ++ before ++ '-' :: after ++ stop ++ back).isEmpty = false := by simp
      simp only [scanPair, htrim, hne, htaken, hback, Bool.false_eq_true, if_false, if_true]

theorem endsName_append {gap rest : List Char} (hgap : allBlank gap = true)
    (hrest : EndsName rest) : EndsName (gap ++ rest) := by
  intro c hc
  cases gap with
  | nil => exact hrest c hc
  | cons d gap =>
      have hd : d = c := Option.some.inj hc
      subst hd
      have hall : ∀ x ∈ d :: gap, Text.isBlank x = true := by simpa [allBlank] using hgap
      exact Or.inl (hall d (by simp))

theorem endsName_of_allBlank {gap : List Char} (h : allBlank gap = true) : EndsName gap := by
  have hnil : EndsName [] := by
    rintro c ⟨⟩
  simpa using endsName_append h hnil

/-- What follows the weekday of a well-formed expression does not continue its name. -/
theorem endsName_pair {t : Tokens} (hform : t.WellFormed) {pair back : List Char}
    (hpair : PairText t.start t.stop pair) (hback : allBlank back = true) :
    EndsName (pair ++ back) := by
  rcases t with ⟨weekday, start, stop⟩
  cases hpair with
  | absent => exact endsName_of_allBlank hback
  | present hbefore hafter =>
      obtain ⟨s, hstart⟩ := hform.start _ rfl
      obtain ⟨c, ds, rfl, hdigit⟩ := TimeOfDay.exists_cons_of_written hstart
      intro d hd
      have heq : c = d := Option.some.inj hd
      exact Or.inr (heq ▸ hdigit)

theorem trimStart_dayToken {name : List Char} (h : IsDayToken name) (rest : List Char) :
    trimStart (name ++ rest) = name ++ rest := by
  obtain ⟨c, ds, rfl, hc⟩ := exists_cons_of_dayToken h
  exact Text.trimStart_cons_of_not_isBlank hc _

/-- Blanks before a pair of times are passed over; without the pair all that is left is blank. -/
theorem trimStart_pair {t : Tokens} (hform : t.WellFormed) {gap pair back : List Char}
    (hgap : allBlank gap = true) (hpair : PairText t.start t.stop pair)
    (hback : allBlank back = true) :
    ∃ back', allBlank back' = true ∧ trimStart (gap ++ (pair ++ back)) = pair ++ back' := by
  rcases t with ⟨weekday, start, stop⟩
  rw [Text.trimStart_append hgap]
  cases hpair with
  | absent => exact ⟨[], rfl, Text.trimStart_eq_nil_iff.mpr (by simpa using hback)⟩
  | present hbefore hafter =>
      obtain ⟨s, hstart⟩ := hform.start _ rfl
      refine ⟨back, hback, ?_⟩
      simp only [List.append_assoc, List.cons_append]
      exact trimStart_written hstart _

theorem scan_of_laidIn {t : Tokens} {cs : List Char} (hlaid : t.LaidIn cs)
    (hform : t.WellFormed) : scan cs = some t := by
  obtain ⟨hfront, hgap, hback, hpair⟩ := hlaid
  rename_i front gap pair back
  simp only [List.append_assoc]
  rw [scan_eq, Text.trimStart_append hfront]
  cases hday : t.weekday with
  | some name =>
      have htoken := hform.weekday name hday
      have hends := endsName_append hgap (endsName_pair hform hpair hback)
      have hscan := scanPair_append hform hgap hback hpair
      rw [hday, List.append_assoc] at hscan
      rw [Option.getD_some, trimStart_dayToken htoken, takeWeekday_append htoken hends]
      exact hscan
  | none =>
      obtain ⟨back', hback', htrim⟩ := trimStart_pair hform hgap hpair hback
      have hnone : allBlank [] = true := rfl
      have hscan := scanPair_append hform hnone hback' hpair
      rw [hday, List.nil_append] at hscan
      rw [Option.getD_none, List.nil_append, htrim,
        takeWeekday_eq_none (endsName_pair hform hpair hback')]
      exact hscan

theorem laidIn_of_scan {t : Tokens} {cs : List Char} (h : scan cs = some t) :
    t.LaidIn cs ∧ t.WellFormed := by
  obtain ⟨front, hfront, hcs⟩ := Text.exists_append_trimStart cs
  rw [scan_eq] at h
  split at h
  · next name rest htake =>
      obtain ⟨hname, htoken⟩ := eq_append_of_takeWeekday htake
      obtain ⟨hday, gap, pair, back, hgap, hback, hpair, hrest, hstart, hstop⟩ := eq_of_scanPair h
      refine ⟨?_, ?_, hstart, hstop⟩
      · have hlaid := LaidIn.intro (t := t) hfront hgap hback hpair
        rw [hday, Option.getD_some] at hlaid
        rw [hcs, hname, hrest]
        simpa using hlaid
      · intro token hsome
        rw [hday, Option.some.injEq] at hsome
        exact hsome ▸ htoken
  · obtain ⟨hday, gap, pair, back, hgap, hback, hpair, hrest, hstart, hstop⟩ := eq_of_scanPair h
    refine ⟨?_, ?_, hstart, hstop⟩
    · have hlaid := LaidIn.intro (t := t) hfront hgap hback hpair
      rw [hday, Option.getD_none] at hlaid
      rw [hcs, hrest]
      simpa using hlaid
    · intro token hsome
      rw [hday] at hsome
      cases hsome

/-- A text is taken apart into the well-formed tokens that are laid out in it. -/
theorem scan_eq_some_iff {cs : List Char} {t : Tokens} :
    scan cs = some t ↔ t.LaidIn cs ∧ t.WellFormed := by
  constructor
  · exact laidIn_of_scan
  · rintro ⟨hlaid, hform⟩
    exact scan_of_laidIn hlaid hform

end Timetable.Tokens
