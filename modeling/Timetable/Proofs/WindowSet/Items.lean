import Mathlib.Data.List.Forall2
import Timetable.Proofs.Except
import Timetable.WindowSet

/-!
Lists of items that are read one after the other. Main statements: a list is accepted exactly when
each of its items is, and the set has their windows in order; the items that are not accepted are
found exactly when no item leads to a fault.
-/
namespace Timetable

section Forall₂

variable {α β : Type} {R : α → β → Prop} {as : List α} {bs : List β}

theorem exists_forall₂_of_forall (h : ∀ a ∈ as, ∃ b, R a b) : ∃ bs, List.Forall₂ R as bs := by
  induction as with
  | nil => exact ⟨[], .nil⟩
  | cons a as ih =>
      rw [List.forall_mem_cons] at h
      obtain ⟨b, hb⟩ := h.1
      obtain ⟨bs, hbs⟩ := ih h.2
      exact ⟨b :: bs, .cons hb hbs⟩

theorem exists_mem_of_forall₂ (h : List.Forall₂ R as bs) {a : α} (ha : a ∈ as) :
    ∃ b ∈ bs, R a b := by
  induction h with
  | nil => cases ha
  | cons hb _ ih =>
      rcases List.mem_cons.mp ha with rfl | ha
      · exact ⟨_, List.mem_cons_self, hb⟩
      · obtain ⟨b, hmem, hrel⟩ := ih ha
        exact ⟨b, List.mem_cons_of_mem _ hmem, hrel⟩

theorem forall₂_comp {γ : Type} {S : β → γ → Prop} {cs : List γ} (h : List.Forall₂ R as bs)
    (h' : List.Forall₂ S bs cs) : List.Forall₂ (fun a c => ∃ b, R a b ∧ S b c) as cs := by
  induction h generalizing cs with
  | nil =>
      cases h'
      exact .nil
  | cons hab _ ih =>
      cases h' with
      | cons hbc h' => exact .cons ⟨_, hab, hbc⟩ (ih h')

end Forall₂

namespace Expression.Reading

/-- There is a reason why an expression is not accepted. -/
def isRejected : Reading → Bool
  | .rejected _ => true
  | _ => false

theorem exists_accepted_of {r : Reading} (hfault : ∀ e, r ≠ .faulty e)
    (hrejected : r.isRejected = false) : ∃ w, r = .accepted w := by
  cases r with
  | accepted w => exact ⟨w, rfl⟩
  | rejected why => cases hrejected
  | faulty e => exact absurd rfl (hfault e)

end Expression.Reading

namespace WindowSet

open Expression (Reading)

variable {α : Type} {read : α → Expression.Reading} {items : List α}

theorem readItems_of_forall₂ {windows : List Window}
    (h : List.Forall₂ (fun item w => read item = .accepted w) items windows) :
    readItems read items = .accepted ⟨windows⟩ := by
  induction h with
  | nil => rfl
  | cons hw _ ih => simp only [readItems, hw, ih]

theorem forall₂_of_readItems {s : WindowSet} (h : readItems read items = .accepted s) :
    List.Forall₂ (fun item w => read item = .accepted w) items s.windows := by
  induction items generalizing s with
  | nil =>
      cases h
      exact .nil
  | cons item items ih =>
      rw [readItems] at h
      split at h
      · cases h
      · cases h
      · next w hw =>
          split at h
          · next t ht =>
              cases h
              exact .cons hw (ih ht)
          · next hother => exact absurd h (hother s)

theorem readItems_eq_accepted_iff {s : WindowSet} :
    readItems read items = .accepted s ↔
      List.Forall₂ (fun item w => read item = .accepted w) items s.windows :=
  ⟨forall₂_of_readItems, readItems_of_forall₂⟩

/-- The items that are not accepted are found if there is no fault. -/
theorem rejectedItems_eq_ok_iff {rejected : List α} :
    rejectedItems read items = .ok rejected ↔
      (∀ item ∈ items, ∀ e, read item ≠ .faulty e) ∧
        rejected = items.filter fun item => (read item).isRejected := by
  induction items generalizing rejected with
  | nil => simp [rejectedItems, eq_comm]
  | cons item items ih =>
      rw [rejectedItems]
      cases hitem : read item with
      | faulty e => simp [hitem]
      | accepted w => simp [hitem, ih, Reading.isRejected]
      | rejected r =>
          simp only [map_eq_ok_iff, ih, List.forall_mem_cons, List.filter_cons, hitem,
            Reading.isRejected, ↓reduceIte, ne_eq, reduceCtorEq, not_false_eq_true, implies_true,
            true_and]
          constructor
          · rintro ⟨more, ⟨hfault, rfl⟩, rfl⟩
            exact ⟨hfault, rfl⟩
          · rintro ⟨hfault, rfl⟩
            exact ⟨_, ⟨hfault, rfl⟩, rfl⟩

end WindowSet

end Timetable
