import Mathlib.Data.List.Forall2
import Timetable.Proofs.Except
import Timetable.Yaml.Content

/-!
The entries that a mapping of a document lists: those that it takes over with merge signs, and then its
own. Main statement: a node that stands for a mapping lists entries of which each stands for a key and
a value, and these are entered into the mapping one after the other.
-/
namespace Timetable.Yaml

namespace Fault

theorem both_eq_ok_iff {α β γ : Type} {join : α → β → γ} {x : Except Fault α} {y : Except Fault β}
    {c : γ} : both join x y = .ok c ↔ ∃ a b, x = .ok a ∧ y = .ok b ∧ join a b = c := by
  cases x <;> cases y <;> simp [both]

end Fault

/-! ### Single values -/

theorem StampFields.value_ne_map (f : StampFields) (fs : List (Value × Value)) :
    f.value ≠ .ok (.map fs) := by
  intro h
  rw [value] at h
  rcases ite_eq_iff.mp h with ⟨-, h⟩ | ⟨-, h⟩
  · cases h
  · obtain ⟨date, -, h⟩ := bind_eq_ok_iff.mp h
    split at h
    · cases h
    · obtain ⟨time, -, h⟩ := bind_eq_ok_iff.mp h
      cases h

theorem valueOf_ne_map (tag : Tag) (text : List Char) (fs : List (Value × Value)) :
    valueOf tag text ≠ .ok (.map fs) := by
  intro h
  cases tag with
  | int =>
      obtain ⟨n, -, hn⟩ := map_eq_ok_iff.mp h
      cases hn
  | float =>
      obtain ⟨x, -, hx⟩ := map_eq_ok_iff.mp h
      cases hx
  | timestamp =>
      rw [valueOf] at h
      split at h
      · next f _ => exact f.value_ne_map fs h
      · cases h
  | bool =>
      simp only [valueOf] at h
      split at h <;> cases h
  | binary =>
      simp only [valueOf] at h
      split at h
      · split at h <;> cases h
      · cases h
  | _ => cases h

namespace Node

/-! ### What is listed -/

/-- The entries that stand in a mapping itself. -/
def ownEntries (entries : List (Node × Node)) : List (Node × Node) :=
  entries.filter fun e => e.1.tag != .merge

mutual

/-- The entries of other mappings that a mapping takes over. -/
def takenOver : List (Node × Node) → List (Node × Node)
  | [] => []
  | (k, v) :: entries =>
      (if k.tag == .merge then
        match v with
        | .mapping _ es => takenOver es ++ ownEntries es
        | .sequence _ items => takenOverItems items
        | _ => []
      else []) ++ takenOver entries

def takenOverItems : List Node → List (Node × Node)
  | [] => []
  | n :: ns =>
      takenOverItems ns ++
        match n with
        | .mapping _ es => takenOver es ++ ownEntries es
        | _ => []

end

/-- The entries that a node lists as a mapping. -/
def listed? : Node → Option (List (Node × Node))
  | .mapping .mapping entries => some (takenOver entries ++ ownEntries entries)
  | .cycle true _ => some []
  | _ => none

/-! ### What entries stand for -/

/-- The key that a node stands for. -/
def keyContent (k : Node) : Except Fault Value :=
  asKey (if k.tag == .value then signKey k else content k)

/-- An entry stands for a key and a value. -/
def IsField (e : Node × Node) (f : Value × Value) : Prop :=
  keyContent e.1 = .ok f.1 ∧ content e.2 = .ok f.2

theorem forall₂_ownFields {entries : List (Node × Node)} {fs : List (Value × Value)}
    (h : ownFields entries = .ok fs) : List.Forall₂ IsField (ownEntries entries) fs := by
  induction entries generalizing fs with
  | nil =>
      cases h
      exact .nil
  | cons e entries ih =>
      rw [ownFields] at h
      rw [ownEntries, List.filter_cons]
      cases hmerge : e.1.tag == .merge with
      | true =>
          rw [hmerge, if_pos rfl] at h
          simp only [bne, hmerge, Bool.not_true, Bool.false_eq_true, if_false]
          exact ih h
      | false =>
          rw [hmerge, if_neg Bool.false_ne_true] at h
          obtain ⟨f, rest, hfirst, hrest, rfl⟩ := Fault.both_eq_ok_iff.mp h
          obtain ⟨k, v, hkey, hvalue, rfl⟩ := Fault.both_eq_ok_iff.mp hfirst
          simp only [bne, hmerge, Bool.not_false, if_true]
          exact .cons ⟨hkey, hvalue⟩ (ih hrest)

mutual

/-- One case for each kind of node behind a merge sign. -/
theorem forall₂_mergedFields : (entries : List (Node × Node)) → ∀ {fs : List (Value × Value)},
    mergedFields entries = .ok fs → List.Forall₂ IsField (takenOver entries) fs
  | [], fs, h => by
      rw [takenOver]
      cases h
      exact .nil
  | (k, .mapping tag es) :: entries, fs, h => by
      rw [mergedFields] at h
      obtain ⟨first, rest, hfirst, hrest, rfl⟩ := Fault.both_eq_ok_iff.mp h
      rw [takenOver]
      refine List.rel_append ?_ (forall₂_mergedFields entries hrest)
      split at hfirst
      · next hmerge =>
        obtain ⟨merged, own, hmerged, hown, rfl⟩ := Fault.both_eq_ok_iff.mp hfirst
        rw [if_pos hmerge]
        exact List.rel_append (forall₂_mergedFields es hmerged) (forall₂_ownFields hown)
      · next hmerge =>
        cases hfirst
        rw [if_neg hmerge]
        exact .nil
  | (k, .sequence tag items) :: entries, fs, h => by
      rw [mergedFields] at h
      obtain ⟨first, rest, hfirst, hrest, rfl⟩ := Fault.both_eq_ok_iff.mp h
      rw [takenOver]
      refine List.rel_append ?_ (forall₂_mergedFields entries hrest)
      split at hfirst
      · next hmerge =>
        rw [if_pos hmerge]
        exact forall₂_mergedItems items hfirst
      · next hmerge =>
        cases hfirst
        rw [if_neg hmerge]
        exact .nil
  | (k, .scalar tag text) :: entries, fs, h => by
      simp only [mergedFields, ite_self] at h
      obtain ⟨first, rest, hfirst, hrest, rfl⟩ := Fault.both_eq_ok_iff.mp h
      cases hfirst
      simpa only [takenOver, ite_self, List.nil_append] using forall₂_mergedFields entries hrest
  | (k, .cycle isMapping place) :: entries, fs, h => by
      simp only [mergedFields, ite_self] at h
      obtain ⟨first, rest, hfirst, hrest, rfl⟩ := Fault.both_eq_ok_iff.mp h
      cases hfirst
      simpa only [takenOver, ite_self, List.nil_append] using forall₂_mergedFields entries hrest

theorem forall₂_mergedItems : (items : List Node) → ∀ {fs : List (Value × Value)},
    mergedItems items = .ok fs → List.Forall₂ IsField (takenOverItems items) fs
  | [], fs, h => by
      rw [takenOverItems]
      cases h
      exact .nil
  | .mapping tag es :: ns, fs, h => by
      rw [mergedItems] at h
      obtain ⟨rest, last, hrest, hlast, rfl⟩ := Fault.both_eq_ok_iff.mp h
      obtain ⟨merged, own, hmerged, hown, rfl⟩ := Fault.both_eq_ok_iff.mp hlast
      rw [takenOverItems]
      refine List.rel_append (forall₂_mergedItems ns hrest) ?_
      exact List.rel_append (forall₂_mergedFields es hmerged) (forall₂_ownFields hown)
  | .sequence tag items :: ns, fs, h => by
      simp only [mergedItems] at h
      obtain ⟨rest, last, hrest, hlast, rfl⟩ := Fault.both_eq_ok_iff.mp h
      cases hlast
      simpa only [takenOverItems, List.append_nil] using forall₂_mergedItems ns hrest
  | .scalar tag text :: ns, fs, h => by
      simp only [mergedItems] at h
      obtain ⟨rest, last, hrest, hlast, rfl⟩ := Fault.both_eq_ok_iff.mp h
      cases hlast
      simpa only [takenOverItems, List.append_nil] using forall₂_mergedItems ns hrest
  | .cycle isMapping place :: ns, fs, h => by
      simp only [mergedItems] at h
      obtain ⟨rest, last, hrest, hlast, rfl⟩ := Fault.both_eq_ok_iff.mp h
      cases hlast
      simpa only [takenOverItems, List.append_nil] using forall₂_mergedItems ns hrest

end

/-! ### Mappings -/

/-- A node that stands for a mapping lists its entries. -/
theorem exists_listed?_of_content {n : Node} {es : List (Value × Value)}
    (h : content n = .ok (.map es)) :
    ∃ listed fields, n.listed? = some listed ∧ List.Forall₂ IsField listed fields ∧
      es = fields.foldl (fun m f => Value.insertEntry f.1 f.2 m) [] := by
  cases n with
  | scalar tag text =>
      rw [content] at h
      split at h
      · cases h
      · exact absurd (mapError_eq_ok_iff.mp h) (valueOf_ne_map tag text es)
  | sequence tag items =>
      simp only [content] at h
      split at h
      · obtain ⟨vs, -, hvs⟩ := map_eq_ok_iff.mp (mapError_eq_ok_iff.mp h)
        cases hvs
      · obtain ⟨vs, -, hvs⟩ := map_eq_ok_iff.mp (mapError_eq_ok_iff.mp h)
        cases hvs
      · obtain ⟨vs, -, hvs⟩ := map_eq_ok_iff.mp (mapError_eq_ok_iff.mp h)
        cases hvs
      · cases h
  | mapping tag entries =>
      simp only [content] at h
      split at h
      · obtain ⟨fields, hfields, hmap⟩ := map_eq_ok_iff.mp (mapError_eq_ok_iff.mp h)
        rw [allFields] at hfields
        split at hfields
        · obtain ⟨merged, own, hmerged, hown, rfl⟩ := Fault.both_eq_ok_iff.mp hfields
          refine ⟨_, _, rfl, ?_, (Value.map.inj hmap).symm⟩
          exact List.rel_append (forall₂_mergedFields entries hmerged) (forall₂_ownFields hown)
        · cases hfields
      · obtain ⟨fields, -, hset⟩ := map_eq_ok_iff.mp (mapError_eq_ok_iff.mp h)
        cases hset
      · split at h
        · cases h
        · split at h
          · exact absurd (mapError_eq_ok_iff.mp h) (valueOf_ne_map tag _ es)
          · cases h
  | cycle isMapping place =>
      cases isMapping with
      | true =>
          cases h
          exact ⟨[], [], rfl, .nil, rfl⟩
      | false => cases h

/-- Only a node that stands for a mapping lists entries. -/
theorem exists_map_of_listed? {n : Node} {listed : List (Node × Node)} {v : Value}
    (hlisted : n.listed? = some listed) (h : content n = .ok v) : ∃ es, v = .map es := by
  cases n with
  | scalar tag text => cases hlisted
  | sequence tag items => cases hlisted
  | mapping tag entries =>
      cases tag with
      | mapping =>
          simp only [content] at h
          obtain ⟨fields, -, rfl⟩ := map_eq_ok_iff.mp (mapError_eq_ok_iff.mp h)
          exact ⟨_, rfl⟩
      | _ => cases hlisted
  | cycle isMapping place =>
      cases isMapping with
      | true =>
          cases h
          exact ⟨[], rfl⟩
      | false => cases hlisted

end Node

end Timetable.Yaml
