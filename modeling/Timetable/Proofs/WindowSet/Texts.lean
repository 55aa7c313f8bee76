import Timetable.Proofs.WindowSet.Items
import Timetable.Window.Strict

/-!
Sets from lists of texts. Main statement: a list of texts stands for the set of their windows in order, and
if some are rejected the error names just those.
-/
namespace Timetable.WindowSet

section Items

variable {α : Type} {read : α → Expression.Reading} {items : List α} {item : α}
  {r : Expression.Rejection}

/-- Reading ends at the first item that is rejected; all items before it are accepted. -/
theorem readItems_eq_rejected_iff :
    readItems read items = .rejected item r ↔ ∃ front back, items = front ++ item :: back ∧
      (∀ x ∈ front, ∃ w, read x = .accepted w) ∧ read item = .rejected r := by
  induction items with
  | nil => simp [readItems]
  | cons x items ih =>
      rw [readItems]
      constructor
      · intro h
        split at h
        · cases h
        · next why hx =>
            cases h
            exact ⟨[], items, rfl, by simp, hx⟩
        · next w hx =>
            split at h
            · cases h
            · obtain ⟨front, back, rfl, hfront, hitem⟩ := ih.mp h
              refine ⟨x :: front, back, rfl, ?_, hitem⟩
              exact List.forall_mem_cons.mpr ⟨⟨w, hx⟩, hfront⟩
      · rintro ⟨front, back, heq, hfront, hitem⟩
        cases front with
        | nil =>
            obtain ⟨rfl, rfl⟩ := List.cons.inj heq
            rw [hitem]
        | cons y front =>
            obtain ⟨rfl, rfl⟩ := List.cons.inj heq
            obtain ⟨⟨w, hw⟩, hrest⟩ := List.forall_mem_cons.mp hfront
            rw [hw, ih.mpr ⟨front, back, rfl, hrest, hitem⟩]

theorem readItems_cases (hfault : ∀ x ∈ items, ∀ e, read x ≠ .faulty e) :
    (∃ s, readItems read items = .accepted s) ∨ ∃ item r, readItems read items = .rejected item r := by
  induction items with
  | nil => exact Or.inl ⟨⟨[]⟩, rfl⟩
  | cons x items ih =>
      rw [List.forall_mem_cons] at hfault
      rw [readItems]
      cases hx : read x with
      | faulty e => exact absurd hx (hfault.1 e)
      | rejected why => exact Or.inr ⟨x, why, rfl⟩
      | accepted w =>
          rcases ih hfault.2 with ⟨s, hs⟩ | ⟨item, why, hrejected⟩
          · rw [hs]
            exact Or.inl ⟨_, rfl⟩
          · rw [hrejected]
            exact Or.inr ⟨item, why, rfl⟩

end Items

theorem forall₂_append_left_iff {α β : Type} {R : α → β → Prop} {as as' : List α} {cs : List β} :
    List.Forall₂ R (as ++ as') cs ↔
      ∃ bs bs', List.Forall₂ R as bs ∧ List.Forall₂ R as' bs' ∧ cs = bs ++ bs' := by
  constructor
  · intro h
    refine ⟨cs.take as.length, cs.drop as.length, ?_, ?_, (List.take_append_drop _ cs).symm⟩
    · simpa using List.forall₂_take as.length h
    · simpa using List.forall₂_drop as.length h
  · rintro ⟨bs, bs', h, h', rfl⟩
    exact List.rel_append h h'

/-! ### Lists of texts -/

/-- A list of texts as a value. -/
def listOf (texts : List String) : Value := .list (texts.map .text)

/-- A set has the windows of texts, one for each of them and in their order. -/
def IsReadFrom (s : WindowSet) (texts : List String) : Prop :=
  List.Forall₂ (fun text w => Expression.read text = .accepted w) texts s.windows

def rejectedTexts (texts : List String) : List String :=
  texts.filter fun text => (Expression.read text).isRejected

variable {texts more : List String} {s : WindowSet}

theorem readItems_listOf_iff :
    readItems Expression.readValue (texts.map .text) = .accepted s ↔ s.IsReadFrom texts := by
  rw [readItems_eq_accepted_iff, List.forall₂_map_left_iff]
  rfl

theorem readValues_listOf_iff : readValues (listOf texts) = .ok (.accepted s) ↔ s.IsReadFrom texts := by
  rw [← readItems_listOf_iff]
  cases h : readItems Expression.readValue (texts.map .text) <;>
    simp [readValues, expressionsOf, listOf, Value.items?, h]

theorem ofExpressions_of_isReadFrom (h : s.IsReadFrom texts) : ofExpressions (listOf texts) = .ok s := by
  simp only [ofExpressions, expressionsOf, listOf, Value.items?, readItems_listOf_iff.mpr h]

theorem exists_isReadFrom (h : ∀ text ∈ texts, ∃ w, Expression.read text = .accepted w) :
    ∃ s : WindowSet, s.IsReadFrom texts := by
  obtain ⟨windows, hwindows⟩ := exists_forall₂_of_forall h
  exact ⟨⟨windows⟩, hwindows⟩

theorem accepted_of_isReadFrom (h : s.IsReadFrom texts) {text : String} (htext : text ∈ texts) :
    ∃ w ∈ s.windows, Expression.read text = .accepted w :=
  exists_mem_of_forall₂ h htext

theorem isReadFrom_append_iff :
    s.IsReadFrom (texts ++ more) ↔ ∃ t u : WindowSet, t.IsReadFrom texts ∧ u.IsReadFrom more ∧
      s = ⟨t.windows ++ u.windows⟩ := by
  rw [IsReadFrom, forall₂_append_left_iff]
  constructor
  · rintro ⟨ws, ws', h, h', heq⟩
    exact ⟨⟨ws⟩, ⟨ws'⟩, h, h', congrArg WindowSet.mk heq⟩
  · rintro ⟨t, u, h, h', rfl⟩
    exact ⟨_, _, h, h', rfl⟩

/-- A set that is read from texts is open when the window of one of them is. -/
theorem contains_iff_of_isReadFrom (h : s.IsReadFrom texts) (i : Instant) :
    s.contains i = true ↔
      ∃ text ∈ texts, ∃ w, Expression.read text = .accepted w ∧ w.contains i = true := by
  rw [s.contains_iff]
  constructor
  · rintro ⟨w, hw, hopen⟩
    obtain ⟨text, htext, hread⟩ := exists_mem_of_forall₂ h.flip hw
    exact ⟨text, htext, w, hread, hopen⟩
  · rintro ⟨text, htext, w, hread, hopen⟩
    obtain ⟨v, hv, hread'⟩ := accepted_of_isReadFrom h htext
    rw [hread, Expression.Reading.accepted.injEq] at hread'
    exact ⟨w, hread' ▸ hv, hopen⟩

theorem exists_rejected_of (hfault : ∀ text ∈ texts, ∀ e, Expression.read text ≠ .faulty e)
    (h : ¬∀ text ∈ texts, ∃ w, Expression.read text = .accepted w) :
    ∃ text others r, rejectedTexts texts = text :: others ∧ Expression.read text = .rejected r ∧
      readItems Expression.readValue (texts.map .text) = .rejected (.text text) r := by
  have hfault' : ∀ v ∈ texts.map Value.text, ∀ e, Expression.readValue v ≠ .faulty e :=
    List.forall_mem_map.mpr hfault
  rcases readItems_cases hfault' with ⟨s, hs⟩ | ⟨v, r, hrejected⟩
  · refine absurd ?_ h
    intro text htext
    obtain ⟨w, -, hw⟩ := accepted_of_isReadFrom (readItems_listOf_iff.mp hs) htext
    exact ⟨w, hw⟩
  · obtain ⟨front, back, heq, hfront, hv⟩ := readItems_eq_rejected_iff.mp hrejected
    obtain ⟨before, rest, rfl, rfl, hrest⟩ := List.map_eq_append_iff.mp heq
    obtain ⟨text, after, rfl, rfl, -⟩ := List.map_eq_cons_iff.mp hrest
    have hbefore : rejectedTexts before = [] := by
      rw [rejectedTexts, List.filter_eq_nil_iff]
      intro x hx
      obtain ⟨w, hw⟩ := hfront (.text x) (List.mem_map_of_mem hx)
      have hread : Expression.read x = .accepted w := hw
      simp [hread, Expression.Reading.isRejected]
    have htext : Expression.read text = .rejected r := hv
    refine ⟨text, rejectedTexts after, r, ?_, htext, hrejected⟩
    rw [rejectedTexts, List.filter_append, ← rejectedTexts, hbefore, List.nil_append,
      List.filter_cons_of_pos (by simp [htext, Expression.Reading.isRejected]), rejectedTexts]

theorem rejectedItems_listOf (hfault : ∀ text ∈ texts, ∀ e, Expression.read text ≠ .faulty e) :
    rejectedItems Expression.readValue (texts.map .text) = .ok ((rejectedTexts texts).map .text) := by
  rw [rejectedItems_eq_ok_iff]
  refine ⟨List.forall_mem_map.mpr hfault, ?_⟩
  rw [List.filter_map]
  rfl

theorem contains_eq_of_mem_iff {t : WindowSet} (hs : s.IsReadFrom texts) (ht : t.IsReadFrom more)
    (h : ∀ text, text ∈ texts ↔ text ∈ more) (i : Instant) : s.contains i = t.contains i := by
  rw [Bool.eq_iff_iff, contains_iff_of_isReadFrom hs, contains_iff_of_isReadFrom ht]
  simp only [h]

/-- A list of texts that lead to no fault stands for the set of their windows if all are accepted. If not, the
first that is rejected ends the reading, and the strict form names all that are rejected, in order. Two lists
in a row stand for the windows of the one and then of the other. A set is open when a window of its texts
is, so the order of the texts and their repetitions do not matter. -/
theorem texts_make_sets :
    (∀ texts : List String, (∀ text ∈ texts, ∀ e, Expression.read text ≠ .faulty e) →
      ((∀ text ∈ texts, ∃ w, Expression.read text = .accepted w) →
        ∃ s : WindowSet, s.IsReadFrom texts ∧ readValues (listOf texts) = .ok (.accepted s) ∧
          ofExpressions (listOf texts) = .ok s) ∧
      ((¬∀ text ∈ texts, ∃ w, Expression.read text = .accepted w) →
        ∃ text others r, rejectedTexts texts = text :: others ∧ Expression.read text = .rejected r ∧
          readValues (listOf texts) = .ok (.rejected (.text text) r) ∧
          ofExpressions (listOf texts) = .error (.rejectedItems ((rejectedTexts texts).map .text)))) ∧
    (∀ texts more s, readValues (listOf (texts ++ more)) = .ok (.accepted s) ↔
      ∃ t u : WindowSet, readValues (listOf texts) = .ok (.accepted t) ∧
        readValues (listOf more) = .ok (.accepted u) ∧ s = ⟨t.windows ++ u.windows⟩) ∧
    (∀ texts s, readValues (listOf texts) = .ok (.accepted s) → ∀ i : Instant,
      s.contains i = true ↔
        ∃ text ∈ texts, ∃ w, Expression.read text = .accepted w ∧ w.contains i = true) ∧
    ∀ texts more s, (∀ text, text ∈ texts ↔ text ∈ more) →
      readValues (listOf texts) = .ok (.accepted s) →
        ∃ t, readValues (listOf more) = .ok (.accepted t) ∧
          ∀ i : Instant, s.contains i = t.contains i := by
  simp only [readValues_listOf_iff]
  refine ⟨?_, ?_, ?_, ?_⟩
  · intro texts hfault
    constructor
    · intro haccepted
      obtain ⟨s, hs⟩ := exists_isReadFrom haccepted
      exact ⟨s, hs, hs, ofExpressions_of_isReadFrom hs⟩
    · intro hnot
      obtain ⟨text, others, r, hrejected, htext, hread⟩ := exists_rejected_of hfault hnot
      refine ⟨text, others, r, hrejected, htext, ?_, ?_⟩
      · simp only [readValues, expressionsOf, listOf, Value.items?, hread]
      · simp only [ofExpressions, expressionsOf, listOf, Value.items?, hread,
          rejectedItems_listOf hfault]
  · intro texts more s
    exact isReadFrom_append_iff
  · intro texts s hs
    exact contains_iff_of_isReadFrom hs
  · intro texts more s hsame hs
    have haccepted : ∀ text ∈ more, ∃ w, Expression.read text = .accepted w := by
      intro text htext
      obtain ⟨w, -, hw⟩ := accepted_of_isReadFrom hs ((hsame text).mpr htext)
      exact ⟨w, hw⟩
    obtain ⟨t, ht⟩ := exists_isReadFrom haccepted
    exact ⟨t, ht, contains_eq_of_mem_iff hs ht hsame⟩

/-- Two texts of a weekend, of which one is repeated, and a list with two texts that stand for nothing. -/
theorem weekend_texts_make_sets :
    (∃ s : WindowSet, s.IsReadFrom ["Sat", "sun 9:00-10:00", "Sat"] ∧
      ofExpressions (listOf ["Sat", "sun 9:00-10:00", "Sat"]) = .ok s) ∧
    ofExpressions (listOf ["soon", "Sat", " ", "soon"]) =
      .error (.rejectedItems [.text "soon", .text " ", .text "soon"]) := by
  have hsaturday : Expression.read "Sat" = .accepted ⟨some .saturday, none⟩ := by decide
  have hsunday : Expression.read "sun 9:00-10:00" = .accepted ⟨some .sunday,
      some ⟨⟨32400000000, by decide⟩, ⟨36000000000, by decide⟩, by decide⟩⟩ := by decide
  have hsoon : Expression.read "soon" = .rejected .grammar := by decide
  have hblank : Expression.read " " = .rejected .blank := by decide
  constructor
  · have hread : ∀ text ∈ ["Sat", "sun 9:00-10:00", "Sat"], ∃ w,
        Expression.read text = .accepted w := by
      simp [hsaturday, hsunday]
    have hfault : ∀ text ∈ ["Sat", "sun 9:00-10:00", "Sat"], ∀ e,
        Expression.read text ≠ .faulty e := by
      simp [hsaturday, hsunday]
    obtain ⟨s, hs, -, hstrict⟩ := (texts_make_sets.1 _ hfault).1 hread
    exact ⟨s, hs, hstrict⟩
  · have hfault : ∀ text ∈ ["soon", "Sat", " ", "soon"], ∀ e, Expression.read text ≠ .faulty e := by
      simp [hsaturday, hsoon, hblank]
    have hnot : ¬∀ text ∈ ["soon", "Sat", " ", "soon"], ∃ w, Expression.read text = .accepted w := by
      simp [hsoon]
    obtain ⟨_, _, _, -, -, -, hstrict⟩ := (texts_make_sets.1 _ hfault).2 hnot
    rw [hstrict]
    rfl

end Timetable.WindowSet
