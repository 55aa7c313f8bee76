import Timetable.Instant
import Timetable.Proofs.Text.Numeral
import Timetable.Text.Width

/-!
Ink: the visible characters of the ASCII range, apart from the bracket that may open a tag. Main
statement: the long form of an instant is a short row of ink.
-/
namespace Timetable

namespace Text

/-- Visible characters that stand for themselves wherever they are printed. -/
def IsInk (c : Char) : Prop :=
  0x20 < c.toNat ∧ c.toNat < 0x7f ∧ c ≠ '['

instance (c : Char) : Decidable (IsInk c) :=
  inferInstanceAs (Decidable (_ ∧ _))

def AreInk (cs : List Char) : Prop :=
  ∀ c ∈ cs, IsInk c

instance (cs : List Char) : Decidable (AreInk cs) :=
  List.decidableBAll IsInk cs

variable {c : Char} {cs front back : List Char}

theorem IsInk.not_isBlank (h : IsInk c) : isBlank c = false :=
  not_isBlank_of_visible h.1 (by have := h.2.1; omega)

theorem IsInk.cells (h : IsInk c) : cells c = 1 := by
  obtain ⟨hlow, hhigh, -⟩ := h
  rw [Text.cells, if_pos (by omega), if_pos (by simp; omega)]

theorem isInk_of_isDigit (h : c.isDigit = true) : IsInk c := by
  obtain ⟨n, hn, rfl⟩ := isDigit_iff_exists_digitChar.mp h
  have hcode := Nat.toNat_digitChar_of_lt_ten hn
  exact ⟨by omega, by omega, digitChar_ne hn (by decide)⟩

@[simp] theorem areInk_nil : AreInk [] :=
  List.forall_mem_nil _

@[simp] theorem areInk_cons_iff : AreInk (c :: cs) ↔ IsInk c ∧ AreInk cs :=
  List.forall_mem_cons

@[simp] theorem areInk_append_iff : AreInk (front ++ back) ↔ AreInk front ∧ AreInk back :=
  List.forall_mem_append

theorem AreInk.not_mem_bracket (h : AreInk cs) : '[' ∉ cs :=
  fun hmem => (h _ hmem).2.2 rfl

@[simp] theorem areInk_padded (width n : Nat) : AreInk (padded width n) :=
  fun _ h => isInk_of_isDigit (isDigit_of_mem_padded h)

theorem areInk_decimalRev (fuel n : Nat) : AreInk (decimalRev fuel n) := by
  induction fuel generalizing n with
  | zero => exact areInk_nil
  | succ fuel ih =>
      rw [decimalRev, areInk_cons_iff]
      constructor
      · exact isInk_of_isDigit (isDigit_iff_exists_digitChar.mpr ⟨n % 10, by omega, rfl⟩)
      · split
        · exact areInk_nil
        · exact ih _

@[simp] theorem areInk_decimal (n : Nat) : AreInk (decimal n) := by
  intro c hc
  exact areInk_decimalRev _ _ c (List.mem_reverse.mp hc)

end Text

open Text

/-! ### Forms of dates and times -/

@[simp] theorem Date.areInk_text (d : Date) : AreInk d.text := by
  have hdash : IsInk '-' := by decide
  simp [text, hdash]

@[simp] theorem Date.areInk_shortText (d : Date) : AreInk d.shortText := by
  have hdash : IsInk '-' := by decide
  simp [shortText, hdash]

@[simp] theorem TimeOfDay.areInk_clockText (t : TimeOfDay) : AreInk t.clockText := by
  have hcolon : IsInk ':' := by decide
  simp [clockText, hcolon]

@[simp] theorem TimeOfDay.areInk_fullText (t : TimeOfDay) : AreInk t.fullText := by
  have hpoint : IsInk '.' := by decide
  rw [fullText, areInk_append_iff]
  refine ⟨t.areInk_clockText, ?_⟩
  split
  · exact areInk_nil
  · simp [hpoint]

@[simp] theorem Offset.areInk_text (o : Offset) : AreInk o.text := by
  have hcolon : IsInk ':' := by decide
  have hsign : IsInk (if o.seconds < 0 then '-' else '+') := by split <;> decide
  have htail : AreInk (if o.seconds.natAbs % 60 = 0 then [] else
      ':' :: padded 2 (o.seconds.natAbs % 60)) := by
    split
    · exact areInk_nil
    · simp [hcolon]
  simp [text, hsign, hcolon, htail]

namespace Instant

theorem areInk_stamp (i : Instant) : AreInk (i.stamp 'T') := by
  have hletter : IsInk 'T' := by decide
  cases hoffset : i.offset with
  | none => simp [stamp, hoffset, hletter]
  | some o => simp [stamp, hoffset, hletter]

theorem areInk_isoText (i : Instant) : AreInk i.isoText := by
  have hletters : IsInk 'T' ∧ IsInk 'Z' := by decide
  rw [isoText]
  split
  · split
    · simp [hletters]
    · exact i.areInk_stamp
  · exact i.areInk_stamp

theorem isoText_ne_nil (i : Instant) : i.isoText ≠ [] := by
  rw [isoText]
  split
  · split <;> simp [stamp, Date.text]
  · simp [stamp, Date.text]

theorem length_isoText_le (i : Instant) : i.isoText.length ≤ 40 := by
  have hdate : i.date.text.length = 10 := by simp [Date.text, padded_length]
  have htime : i.time.fullText.length ≤ 15 := by
    simp only [TimeOfDay.fullText, TimeOfDay.clockText, List.length_append, List.length_cons,
      padded_length]
    split <;> simp [padded_length]
  have hoffset : ∀ o : Offset, o.text.length ≤ 9 := by
    intro o
    simp only [Offset.text, List.length_append, List.length_cons, padded_length]
    split <;> simp [padded_length]
  have hstamp : (i.stamp 'T').length ≤ 40 := by
    rw [stamp]
    cases i.offset with
    | none => simp; omega
    | some o =>
        have := hoffset o
        simp
        omega
  rw [isoText]
  split
  · split
    · simp
      omega
    · exact hstamp
  · exact hstamp

end Instant

end Timetable
