import Mathlib.Data.List.Nodup
import Timetable.Config

/-!
Entering things under keys one after the other, where a key that is there already keeps its place and
its first form and takes the new thing. Main statements: what comes of it has the names of the entries,
and things that were entered under these names; it is the list of entries itself if no name is repeated.
-/
namespace Timetable

variable {κ β ν : Type}

/-- A list with one more thing under a key. -/
def insertBy (same : κ → κ → Bool) (e : κ × β) : List (κ × β) → List (κ × β)
  | [] => [e]
  | f :: fs => if same f.1 e.1 then (f.1, e.2) :: fs else f :: insertBy same e fs

def insertAllBy (same : κ → κ → Bool) (acc es : List (κ × β)) : List (κ × β) :=
  es.foldl (fun acc e => insertBy same e acc) acc

theorem insertEntry_eq_insertBy (k v : Value) (es : List (Value × Value)) :
    Value.insertEntry k v es = insertBy Value.sameKey (k, v) es := by
  induction es with
  | nil => rfl
  | cons f fs ih => rw [Value.insertEntry, insertBy, ih]

theorem insertSchedule_eq_insertBy (s : Schedule) (ss : List Schedule) :
    Config.insertSchedule s ss = insertBy (fun m n => decide (m = n)) s ss := by
  induction ss with
  | nil => rfl
  | cons t ts ih => simp only [Config.insertSchedule, insertBy, ih, decide_eq_true_eq]

section

variable {same : κ → κ → Bool} {name : κ → ν} {acc es : List (κ × β)} {e p : κ × β}

theorem exists_of_mem_insertBy (hsame : ∀ a b, same a b = true → name a = name b)
    (h : p ∈ insertBy same e acc) : p ∈ acc ∨ name p.1 = name e.1 ∧ p.2 = e.2 := by
  induction acc with
  | nil =>
      obtain rfl : p = e := by simpa [insertBy] using h
      exact Or.inr ⟨rfl, rfl⟩
  | cons f fs ih =>
      rw [insertBy] at h
      split at h
      · next hf =>
        rcases List.mem_cons.mp h with rfl | h
        · exact Or.inr ⟨hsame _ _ hf, rfl⟩
        · exact Or.inl (List.mem_cons_of_mem _ h)
      · rcases List.mem_cons.mp h with rfl | h
        · exact Or.inl List.mem_cons_self
        · exact (ih h).imp_left (List.mem_cons_of_mem _)

/-- Names are kept when a thing is entered. -/
theorem mem_names_insertBy_iff (hsame : ∀ a b, same a b = true → name a = name b) {n : ν} :
    n ∈ (insertBy same e acc).map (fun p => name p.1) ↔
      n ∈ acc.map (fun p => name p.1) ∨ n = name e.1 := by
  induction acc with
  | nil => simp [insertBy]
  | cons f fs ih =>
      rw [insertBy]
      split
      · next hf =>
        have hname := hsame _ _ hf
        simp only [List.map_cons, List.mem_cons, ← hname]
        tauto
      · simp only [List.map_cons, List.mem_cons, ih]
        tauto

theorem insertBy_of_not_mem (hsame : ∀ a b, same a b = true → name a = name b)
    (h : name e.1 ∉ acc.map fun p => name p.1) : insertBy same e acc = acc ++ [e] := by
  induction acc with
  | nil => rfl
  | cons f fs ih =>
      rw [List.map_cons, List.mem_cons, not_or] at h
      have hf : ¬same f.1 e.1 = true := fun hf => h.1 (hsame _ _ hf).symm
      rw [insertBy, if_neg hf, ih h.2, List.cons_append]

/-! ### Many things -/

theorem exists_of_mem_insertAllBy (hsame : ∀ a b, same a b = true → name a = name b)
    (h : p ∈ insertAllBy same acc es) :
    p ∈ acc ∨ ∃ e ∈ es, name p.1 = name e.1 ∧ p.2 = e.2 := by
  induction es generalizing acc with
  | nil => exact Or.inl h
  | cons e es ih =>
      rcases ih h with h | ⟨f, hf, hname⟩
      · rcases exists_of_mem_insertBy hsame h with h | hname
        · exact Or.inl h
        · exact Or.inr ⟨e, List.mem_cons_self, hname⟩
      · exact Or.inr ⟨f, List.mem_cons_of_mem _ hf, hname⟩

theorem mem_names_insertAllBy_iff (hsame : ∀ a b, same a b = true → name a = name b) {n : ν} :
    n ∈ (insertAllBy same acc es).map (fun p => name p.1) ↔
      n ∈ acc.map (fun p => name p.1) ∨ n ∈ es.map (fun p => name p.1) := by
  induction es generalizing acc with
  | nil => simp [insertAllBy]
  | cons e es ih =>
      rw [insertAllBy, List.foldl_cons, ← insertAllBy, ih, mem_names_insertBy_iff hsame,
        List.map_cons, List.mem_cons]
      tauto

theorem insertAllBy_of_nodup (hsame : ∀ a b, same a b = true → name a = name b)
    (h : ((acc ++ es).map fun p => name p.1).Nodup) : insertAllBy same acc es = acc ++ es := by
  induction es generalizing acc with
  | nil => simp [insertAllBy]
  | cons e es ih =>
      have hnot : name e.1 ∉ acc.map fun p => name p.1 := by
        rw [List.map_append, List.map_cons, List.nodup_append] at h
        intro hmem
        exact h.2.2 _ hmem _ List.mem_cons_self rfl
      have hassoc : acc ++ e :: es = acc ++ [e] ++ es := by simp
      rw [insertAllBy, List.foldl_cons, ← insertAllBy, insertBy_of_not_mem hsame hnot, hassoc]
      exact ih (hassoc ▸ h)

/-! ### From the start -/

/-- What comes of entering things one after the other. -/
def entered (same : κ → κ → Bool) (es : List (κ × β)) : List (κ × β) :=
  insertAllBy same [] es

theorem exists_of_mem_entered (hsame : ∀ a b, same a b = true → name a = name b)
    (h : p ∈ entered same es) : ∃ e ∈ es, name p.1 = name e.1 ∧ p.2 = e.2 :=
  (exists_of_mem_insertAllBy hsame h).resolve_left List.not_mem_nil

theorem mem_names_entered_iff (hsame : ∀ a b, same a b = true → name a = name b) {n : ν} :
    n ∈ (entered same es).map (fun p => name p.1) ↔ n ∈ es.map fun p => name p.1 := by
  rw [entered, mem_names_insertAllBy_iff hsame, List.map_nil]
  exact or_iff_right List.not_mem_nil

theorem entered_of_nodup (hsame : ∀ a b, same a b = true → name a = name b)
    (h : (es.map fun p => name p.1).Nodup) : entered same es = es :=
  insertAllBy_of_nodup hsame h

end

end Timetable
