import Timetable.Proofs.Except
import Timetable.Proofs.Text.Numeral
import Timetable.Stamp

/-!
The long form of instants. Main statements: an instant is read back from its long form, in every time zone,
if its offset is of a kind that texts can tell and is short of a day, and the instants that are read on the
clock of universal time have offsets of that kind.
-/
namespace Timetable

/-- The offset is one that a text can tell: universal time by name, or whole minutes. -/
def Offset.IsTold (o : Offset) : Prop :=
  o = .utc ∨ o.universal = false ∧ o.seconds % 60 = 0

/-- The offset is told in full by the long form. -/
structure Offset.IsStandard (o : Offset) : Prop where
  told : o.IsTold
  within_day : o.seconds.natAbs < 86400

theorem Offset.isTold_utc : utc.IsTold :=
  Or.inl rfl

theorem Offset.IsTold.isStandard {o : Offset} (h : o.IsTold) (hshort : o.isShort = true) :
    o.IsStandard :=
  ⟨h, of_decide_eq_true hshort⟩

theorem daysInMonth_le (year month : Nat) : daysInMonth year month ≤ 31 := by
  unfold daysInMonth
  split
  · split <;> decide
  all_goals decide

/-- What the long form tells about an offset. -/
def Offset.isoText (o : Offset) : List Char :=
  if o.universal then ['Z'] else o.text

theorem Instant.isoText_eq {i : Instant} {o : Offset} (h : i.offset = some o) :
    i.isoText = i.date.text ++ 'T' :: (i.time.fullText ++ o.isoText) := by
  rw [isoText, h, Offset.isoText]
  cases huniversal : o.universal <;> simp [stamp, h, huniversal]

namespace Stamp.Iso

open Text (padded)

/-! ### Numbers -/

theorem digit_digitChar {n : Nat} (h : n < 10) (cs : List Char) :
    digit (Nat.digitChar n :: cs) = some (n, cs) := by
  have hcode := Nat.toNat_digitChar_of_lt_ten h
  rw [digit, Text.asciiDigit?, Nat.isDigit_digitChar, hcode]
  simp [h]

theorem digitsFrom_map_digitChar {ds : List Nat} (h : ∀ d ∈ ds, d < 10) (value : Nat)
    (rest : List Char) :
    digitsFrom value ds.length (ds.map Nat.digitChar ++ rest) =
      some (ds.foldl (fun n d => 10 * n + d) value, rest) := by
  induction ds generalizing value with
  | nil => rfl
  | cons d ds ih =>
      rw [List.forall_mem_cons] at h
      rw [List.length_cons, List.map_cons, List.cons_append, digitsFrom, digit_digitChar h.1]
      exact ih h.2 (10 * value + d)

/-- A number that is written with a fixed width is read, and the text behind it is left. -/
theorem digits_padded {width n : Nat} (h : n < Nat.pow 10 width) (rest : List Char) :
    digits width (padded width n ++ rest) = some (n, rest) := by
  have hplaces : ∀ d ∈ Text.places width n, d < 10 := fun d hd => Text.lt_ten_of_mem_places hd
  have hdigits := digitsFrom_map_digitChar hplaces 0 rest
  rw [Text.places_length, ← Text.padded_eq_map_places] at hdigits
  rw [digits, hdigits]
  exact congrArg (fun value => some (value, rest)) (Text.Numeral.ofDigits_places h)

/-! ### Dates -/

theorem takeDate_text (d : Date) (rest : List Char) :
    takeDate (d.text ++ rest) = some (d, true, rest) := by
  have hyear : d.year < Nat.pow 10 4 := Nat.lt_succ_of_le d.year_range.2
  have hmonth : d.month < Nat.pow 10 2 := Nat.lt_of_le_of_lt d.month_range.2 (by decide)
  have hday : d.day < Nat.pow 10 2 :=
    Nat.lt_of_le_of_lt (d.day_range.2.trans (daysInMonth_le d.year d.month)) (by decide)
  have hdate : Date.make? d.year d.month d.day = some d := by
    rw [Date.make?, Date.make_fields]
    rfl
  have hassoc : d.text ++ rest =
      padded 4 d.year ++ '-' :: (padded 2 d.month ++ '-' :: (padded 2 d.day ++ rest)) := by
    simp [Date.text]
  -- The dash behind the year is not the one of a week.
  obtain ⟨c, cs, hcs, hc⟩ := Text.exists_cons_padded 1 d.month
  rw [hassoc, takeDate]
  simp only [digits_padded hyear, Option.bind_eq_bind, Option.bind_some]
  split
  · next h => cases h
  · next h =>
      rw [hcs, List.cons_append, List.cons.injEq, List.cons.injEq] at h
      obtain ⟨-, rfl, -⟩ := h
      cases hc
  · next h => simp at h
  · next h =>
      cases h
      simp [digits_padded hmonth, digits_padded hday, hdate]
  · next h => simp at h

/-! ### Times -/

theorem takeFraction_append (t : TimeOfDay) {rest : List Char} (h : atTimeEnd rest = true) :
    takeFraction ((if t.microsecond = 0 then [] else '.' :: padded 6 t.microsecond) ++ rest) =
      some (t.microsecond, rest) := by
  have hrest : rest = [] ∨ ∃ c cs, rest = c :: cs ∧ (c = 'Z' ∨ c = '+' ∨ c = '-') := by
    cases rest with
    | nil => exact Or.inl rfl
    | cons c cs => exact Or.inr ⟨c, cs, rfl, by simpa [atTimeEnd, or_assoc] using h⟩
  split
  · next hzero =>
      rw [hzero]
      obtain rfl | ⟨c, cs, rfl, rfl | rfl | rfl⟩ := hrest <;> rfl
  · have hdigits : ∀ c ∈ padded 6 t.microsecond, c.isDigit = true :=
      fun c hc => Text.isDigit_of_mem_padded hc
    have hend : rest.takeWhile Char.isDigit = [] ∧ rest.dropWhile Char.isDigit = rest := by
      obtain rfl | ⟨c, cs, rfl, rfl | rfl | rfl⟩ := hrest <;> exact ⟨rfl, rfl⟩
    have htake : (padded 6 t.microsecond ++ rest).takeWhile Char.isDigit = padded 6 t.microsecond := by
      rw [List.takeWhile_append_of_pos hdigits, hend.1, List.append_nil]
    have hdrop : (padded 6 t.microsecond ++ rest).dropWhile Char.isDigit = rest := by
      rw [List.dropWhile_append_of_pos hdigits, hend.2]
    have hsix : (padded 6 t.microsecond ++ List.replicate 6 '0').take 6 = padded 6 t.microsecond :=
      List.take_left' (Text.padded_length 6 t.microsecond)
    have hread : digits 6 (padded 6 t.microsecond ++ []) = some (t.microsecond, []) :=
      digits_padded t.microsecond_lt []
    rw [List.append_nil, ← hsix] at hread
    obtain ⟨c, cs, hcs, -⟩ := Text.exists_cons_padded 5 t.microsecond
    have hne : (padded 6 t.microsecond).isEmpty = false := by rw [hcs]; rfl
    rw [List.cons_append, takeFraction, if_pos (Or.inl rfl)]
    simp only [htake, hdrop, hne, hread, Bool.false_eq_true, if_false]

theorem takeTime_fullText (t : TimeOfDay) {rest : List Char} (h : atTimeEnd rest = true) :
    takeTime true (t.fullText ++ rest) = some (t, rest) := by
  have hhour : t.hour < Nat.pow 10 2 := Nat.lt_trans t.hour_lt (by decide)
  have hminute : t.minute < Nat.pow 10 2 := Nat.lt_trans t.minute_lt (by decide)
  have hsecond : t.second < Nat.pow 10 2 := Nat.lt_trans t.second_lt (by decide)
  have hassoc : t.fullText ++ rest =
      padded 2 t.hour ++ ':' :: (padded 2 t.minute ++ ':' :: (padded 2 t.second ++
        ((if t.microsecond = 0 then [] else '.' :: padded 6 t.microsecond) ++ rest))) := by
    simp [TimeOfDay.fullText, TimeOfDay.clockText]
  rw [hassoc, takeTime]
  simp [digits_padded hhour, digits_padded hminute, digits_padded hsecond, takeFraction_append t h,
    TimeOfDay.ofClock?_views, atTimeEnd]

/-! ### Offsets -/

theorem atTimeEnd_isoText (o : Offset) : atTimeEnd o.isoText = true := by
  rw [Offset.isoText]
  split
  · rfl
  · rw [Offset.text]
    split <;> rfl

theorem readOffset_sign {sign : Char} (hsign : sign = '+' ∨ sign = '-') {hours minutes : Nat}
    (hhours : hours < Nat.pow 10 2) (hminutes : minutes < Nat.pow 10 2) :
    readOffset (sign :: (padded 2 hours ++ ':' :: padded 2 minutes)) =
      some (some ⟨if sign = '-' then -((hours : Int) * 3600 + minutes * 60)
        else hours * 3600 + minutes * 60, false⟩) := by
  have hread : digits 2 (padded 2 minutes ++ []) = some (minutes, []) := digits_padded hminutes []
  rw [List.append_nil] at hread
  rcases hsign with rfl | rfl
  · simp [readOffset, digits_padded hhours, hread]
  · simp [readOffset, digits_padded hhours, hread]

theorem readOffset_isoText {o : Offset} (h : o.IsStandard) :
    readOffset o.isoText = some (some o) := by
  rcases o with ⟨seconds, universal⟩
  obtain ⟨heq | ⟨huniversal, hminutes⟩, hday⟩ := h
  · rw [heq]
    rfl
  · simp only at huniversal hminutes hday
    subst huniversal
    have hhours : seconds.natAbs / 3600 < Nat.pow 10 2 := by
      change seconds.natAbs / 3600 < 100
      omega
    have hsixtieth : seconds.natAbs / 60 % 60 < Nat.pow 10 2 :=
      Nat.lt_trans (Nat.mod_lt _ (by decide)) (by decide)
    have htail : seconds.natAbs % 60 = 0 := by omega
    have htotal : ((seconds.natAbs / 3600 : Nat) : Int) * 3600 +
        ((seconds.natAbs / 60 % 60 : Nat) : Int) * 60 = seconds.natAbs := by omega
    rw [Offset.isoText, if_neg Bool.false_ne_true, Offset.text]
    simp only [htail, if_true, List.cons_append, List.append_nil]
    by_cases hneg : seconds < 0
    · rw [if_pos hneg, readOffset_sign (Or.inr rfl) hhours hsixtieth, htotal, if_pos rfl,
        Int.ofNat_natAbs_of_nonpos (Int.le_of_lt hneg), Int.neg_neg]
    · rw [if_neg hneg, readOffset_sign (Or.inl rfl) hhours hsixtieth, htotal, if_neg (by decide),
        Int.natAbs_of_nonneg (Int.not_lt.mp hneg)]

theorem isTold_of_readOffset {cs : List Char} {o : Offset} (h : readOffset cs = some (some o)) :
    o.IsTold := by
  unfold readOffset at h
  split at h
  · cases h
  · cases h
    exact Or.inl rfl
  · split at h
    · next c cs _ _ =>
        obtain ⟨⟨hours, rest⟩, -, h⟩ := Option.bind_eq_some_iff.mp h
        -- However the minutes are written, the distance is the same sum of hours and minutes.
        have hminutes : ∃ minutes : Nat, o =
            ⟨if c = '-' then -((hours : Int) * 3600 + minutes * 60) else hours * 3600 + minutes * 60,
              false⟩ := by
          simp only at h
          split at h
          · cases h
            exact ⟨0, rfl⟩
          · split at h
            · next n _ =>
                cases h
                exact ⟨n, rfl⟩
            · cases h
          · split at h
            · next n _ =>
                cases h
                exact ⟨n, rfl⟩
            · cases h
        obtain ⟨minutes, rfl⟩ := hminutes
        refine Or.inr ⟨rfl, ?_⟩
        simp only
        split <;> omega
    · cases h

/-! ### Stamps -/

variable {i : Instant} {o : Offset}

theorem readMoment_isoText (hoffset : i.offset = some o) (h : o.IsStandard) :
    readMoment i.isoText = some (.moment i.date i.time (some o)) := by
  rw [Instant.isoText_eq hoffset, readMoment, takeDate_text]
  simp [takeTime_fullText i.time (atTimeEnd_isoText o), readOffset_isoText h]

/-- The long form begins with the digits of the year. -/
theorem exists_isoText (hoffset : i.offset = some o) :
    ∃ a b c cs, i.isoText = a :: b :: c :: cs ∧ a.isDigit = true ∧ c.isDigit = true := by
  have hdigit (n : Nat) : (Nat.digitChar (n % 10)).isDigit = true :=
    Text.isDigit_iff_exists_digitChar.mpr ⟨n % 10, Nat.mod_lt n (by decide), rfl⟩
  rw [Instant.isoText_eq hoffset]
  exact ⟨_, _, _, _, rfl, hdigit _, hdigit _⟩

theorem readStamp_isoText (hoffset : i.offset = some o) (h : o.IsStandard) :
    readStamp i.isoText = some (.moment i.date i.time (some o)) := by
  obtain ⟨a, b, c, cs, hcs, ha, hc⟩ := exists_isoText hoffset
  have hmoment := readMoment_isoText hoffset h
  rw [hcs] at hmoment ⊢
  unfold readStamp
  split
  · next heq =>
      cases heq
      cases ha
  · next heq =>
      cases heq
      cases ha
  · next heq =>
      cases heq
      cases hc
  · exact hmoment

theorem isTold_of_readStamp {cs : List Char} {d : Date} {t : TimeOfDay}
    (h : readStamp cs = some (.moment d t (some o))) : o.IsTold := by
  -- A time without a date may be followed by a distance, which is not kept.
  have hclock {cs : List Char} (h : readClock cs = some (.moment d t (some o))) : False := by
    obtain ⟨_, -, h⟩ := Option.bind_eq_some_iff.mp h
    obtain ⟨_, -, h⟩ := Option.bind_eq_some_iff.mp h
    cases h
  unfold readStamp at h
  split at h
  · obtain ⟨p, -, h⟩ := Option.map_eq_some_iff.mp h
    cases h
  · exact (hclock h).elim
  · exact (hclock h).elim
  · obtain ⟨⟨d', dashes, rest⟩, -, h⟩ := Option.bind_eq_some_iff.mp h
    simp only at h
    split at h
    · cases h
    · split at h
      · obtain ⟨⟨t', rest⟩, -, h⟩ := Option.bind_eq_some_iff.mp h
        obtain ⟨o', hoffset, h⟩ := Option.bind_eq_some_iff.mp h
        cases h
        exact isTold_of_readOffset hoffset
      · cases h

end Stamp.Iso

theorem Stamp.Loose.offset_of_readStamp {cs : List Char} {d : Date} {t : TimeOfDay} {o : Option Offset}
    (h : readStamp cs = .ok (some (.moment d t o))) : o = none := by
  unfold readStamp at h
  split at h
  · cases h
  · unfold ofFields at h
    split at h
    · cases h
    · obtain ⟨_, -, h⟩ := map_eq_ok_iff.mp h
      cases h
    · split at h
      · cases h
      · obtain ⟨_, -, h⟩ := map_eq_ok_iff.mp h
        cases h
    · split at h
      · cases h
      · obtain ⟨_, -, h⟩ := bind_eq_ok_iff.mp h
        obtain ⟨_, -, h⟩ := bind_eq_ok_iff.mp h
        cases h
        rfl

/-! ### Instants -/

theorem Zone.place?_utc (d : Date) (t : TimeOfDay) : utc.place? d t = some ⟨d, t, some .utc⟩ :=
  rfl

theorem Zone.offset_of_fromUniversal?_utc {d : Date} {t : TimeOfDay} {i : Instant}
    (h : utc.fromUniversal? d t = some i) : i.offset = some .utc := by
  obtain ⟨⟨d', t'⟩, -, rfl⟩ := Option.map_eq_some_iff.mp h
  rfl

namespace Reading

theorem isTold_of_ofText {text : String} {d : Date} {t : TimeOfDay} {o : Offset}
    (h : ofText text = .ok (.stamp (.moment d t (some o)))) : o.IsTold := by
  unfold ofText at h
  simp only at h
  split at h
  · cases h
  · split at h
    · next heq =>
        cases h
        exact Stamp.Iso.isTold_of_readStamp heq
    · split at h
      · cases h
      · split at h
        · cases h
        · next heq =>
            cases h
            cases Stamp.Loose.offset_of_readStamp heq
        · cases h

theorem ofText_isoText {i : Instant} {o : Offset} (hoffset : i.offset = some o) (h : o.IsStandard) :
    ofText (String.ofList i.isoText) = .ok (.stamp (.moment i.date i.time (some o))) := by
  have hnow : (String.ofList i.isoText == "now") = false := by
    rw [beq_eq_false_iff_ne]
    intro heq
    have hcs := congrArg String.toList heq
    obtain ⟨a, b, c, cs, htext, ha, -⟩ := Stamp.Iso.exists_isoText hoffset
    rw [String.toList_ofList, htext] at hcs
    obtain ⟨rfl, -⟩ := List.cons.inj hcs
    cases ha
  rw [ofText, hnow, String.toList_ofList, Stamp.Iso.readStamp_isoText hoffset h]
  rfl

theorem isTold_of_placeWall {zone : String} (hutc : Zone.find zone = .ok .utc) {d : Date}
    {t : TimeOfDay} {o : Option Offset} {i : Instant} (htold : ∀ o', o = some o' → o'.IsTold)
    (h : placeWall zone d t o = .ok i) : ∃ o', i.offset = some o' ∧ o'.IsTold := by
  cases o with
  | some o =>
      cases h
      exact ⟨o, rfl, htold o rfl⟩
  | none =>
      simp only [placeWall, hutc, Zone.place?_utc] at h
      cases h
      exact ⟨.utc, rfl, Offset.isTold_utc⟩

theorem exists_zone_of_current {zone : String} {now i : Instant} (h : current zone now = .ok i) :
    ∃ z, (if zone == "" then .ok Zone.utc else Zone.find zone) = .ok z ∧
      z.fromUniversal? now.date now.time = some i := by
  unfold current at h
  split at h
  · cases h
  · next z hz =>
      split at h
      · next hplace =>
          cases h
          exact ⟨z, hz, hplace⟩
      · cases h

theorem isTold_of_current {zone : String} (hutc : Zone.find zone = .ok .utc) {now i : Instant}
    (h : current zone now = .ok i) : ∃ o, i.offset = some o ∧ o.IsTold := by
  obtain ⟨z, hz, hplace⟩ := exists_zone_of_current h
  rw [hutc, ite_self, Except.ok.injEq] at hz
  subst hz
  exact ⟨.utc, Zone.offset_of_fromUniversal?_utc hplace, Offset.isTold_utc⟩

end Reading

/-- An instant with such an offset is read back from its long form, whatever the time zone and the time
now. -/
theorem Instant.read_isoText {i : Instant} {o : Offset} (hoffset : i.offset = some o) (h : o.IsStandard)
    (zone : String) (now : Instant) : Instant.read (String.ofList i.isoText) zone now = .ok i := by
  rw [read, Reading.ofText_isoText hoffset h]
  simp only [Reading.instant, Reading.wall?, Reading.placeWall]
  rw [← hoffset]

/-- What is read on the clock of universal time has an offset that a text can tell. -/
theorem Instant.isTold_of_read {text zone : String} (hutc : Zone.find zone = .ok .utc)
    {now i : Instant} (h : Instant.read text zone now = .ok i) :
    ∃ o, i.offset = some o ∧ o.IsTold := by
  rw [read] at h
  cases htext : Reading.ofText text with
  | error e =>
      rw [htext] at h
      cases h
  | ok r =>
      rw [htext] at h
      cases r with
      | now => exact Reading.isTold_of_current hutc h
      | interval a b =>
          simp only [Reading.instant] at h
          split at h <;> cases h
      | stamp s =>
          simp only [Reading.instant] at h
          split at h
          · next d t o hwall =>
              refine Reading.isTold_of_placeWall hutc ?_ h
              rintro o' rfl
              cases s with
              | moment d' t' offset =>
                  cases hwall
                  exact Reading.isTold_of_ofText htext
              | date d' => cases hwall
              | clock t' => cases hwall
              | period p => cases hwall
          · cases h

/-- What is read on the clock of universal time and has a long form is read back from that. -/
theorem Instant.read_isoText_of_read {text zone : String} (hutc : Zone.find zone = .ok .utc)
    {now i : Instant} (h : Instant.read text zone now = .ok i) (hiso : i.hasIsoText = true)
    (now' : Instant) : Instant.read (String.ofList i.isoText) zone now' = .ok i := by
  obtain ⟨o, hoffset, htold⟩ := isTold_of_read hutc h
  rw [hasIsoText, hoffset, Option.all_some] at hiso
  exact read_isoText hoffset (htold.isStandard hiso) zone now'

end Timetable
