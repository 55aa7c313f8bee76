import Timetable.Markup

/-!
What is shown of texts without opening brackets. Main statement: such a text is shown as it is,
control characters aside.
-/
namespace Timetable.Markup

variable {takes : List Char → Bool} {cs before rest inside name : List Char} {fuel : Nat}

def shownChars (cs : List Char) : List Char :=
  cs.filter fun c => !isControl c

/-! ### Tags -/

/-- What makes a tag between brackets. -/
structure IsInside (inside : List Char) : Prop where
  starts : ∃ c ∈ inside.head?, startsTag c = true
  closed : ∀ x ∈ inside, (x != '[' && x != ']') = true

instance (inside : List Char) : Decidable (IsInside inside) :=
  decidable_of_iff
    (inside.head?.any startsTag = true ∧ inside.all (fun x => x != '[' && x != ']') = true)
    ⟨fun ⟨hstarts, hclosed⟩ =>
        ⟨(Option.any_eq_true _ _).mp hstarts, List.all_eq_true.mp hclosed⟩,
      fun h => ⟨(Option.any_eq_true _ _).mpr h.starts, List.all_eq_true.mpr h.closed⟩⟩

theorem takeTag_of_isInside (h : IsInside inside) (rest : List Char) :
    takeTag ('[' :: inside ++ ']' :: rest) = some (inside, rest) := by
  obtain ⟨c, hhead, hstarts⟩ := h.starts
  obtain ⟨cs, rfl⟩ := List.head?_eq_some_iff.mp hhead
  have htake : (cs ++ ']' :: rest).takeWhile (fun x => x != '[' && x != ']') = cs := by
    rw [List.takeWhile_append_of_pos fun x hx => h.closed x (List.mem_cons_of_mem c hx)]
    simp
  simp [takeTag, hstarts, htake]

theorem takeTag_eq_none (h : cs.head? ≠ some '[') : takeTag cs = none := by
  unfold takeTag
  split
  · simp at h
  · rfl

/-! ### Pieces -/

theorem drop_slashes (cs : List Char) :
    cs.drop (cs.takeWhile (· == '\\')).length = cs.dropWhile (· == '\\') := by
  have hdrop : (cs.takeWhile (· == '\\') ++ cs.dropWhile (· == '\\')).drop
      (cs.takeWhile (· == '\\')).length = cs.dropWhile (· == '\\') := List.drop_left
  rwa [List.takeWhile_append_dropWhile] at hdrop

theorem piecesFrom_of_not_mem (h : '[' ∉ cs) (fuel : Nat) (before : List Char) :
    piecesFrom fuel before cs = textPiece (before.reverse ++ cs) := by
  induction cs generalizing fuel before with
  | nil => cases fuel <;> simp [piecesFrom]
  | cons c cs ih =>
      cases fuel with
      | zero => rfl
      | succ fuel =>
          have hnone : takeTag ((c :: cs).dropWhile (· == '\\')) = none := by
            refine takeTag_eq_none fun hhead => ?_
            exact h ((List.dropWhile_sublist _).subset (List.mem_of_head? hhead))
          rw [piecesFrom]
          simp only [drop_slashes, hnone]
          rw [ih (fun hmem => h (List.mem_cons_of_mem c hmem))]
          simp

/-! ### Plain texts -/

theorem dropEscapes_of_not_mem (h : '[' ∉ cs) : dropEscapes cs = cs := by
  induction cs with
  | nil => rfl
  | cons c cs ih =>
      have hcs : '[' ∉ cs := fun hmem => h (List.mem_cons_of_mem c hmem)
      rw [dropEscapes, ih hcs]
      rintro ds rfl rfl
      exact hcs List.mem_cons_self

theorem plain_of_not_mem (h : '[' ∉ cs) : plain takes cs = .ok (shownChars cs) := by
  rw [plain, pieces, piecesFrom_of_not_mem h, List.reverse_nil, List.nil_append, textPiece]
  cases cs with
  | nil => rfl
  | cons c cs =>
      rw [List.isEmpty_cons, if_neg Bool.false_ne_true, dropEscapes_of_not_mem h]
      simp [plainFrom, shownChars, Except.map]

/-! ### Styled texts -/

/-- The name of a style that a tag turns on and another turns off. -/
structure IsStyle (takes : List Char → Bool) (name : List Char) : Prop where
  opening : IsInside name
  closing : IsInside ('/' :: name)
  opens : step takes [] (tagOf name) = .ok [⟨name, none⟩]
  closes : step takes [⟨name, none⟩] (tagOf ('/' :: name)) = .ok []

/-- A text between the tags of a style. -/
def styled (name cs : List Char) : List Char :=
  '[' :: name ++ ']' :: (cs ++ ('[' :: '/' :: name ++ [']']))

theorem isStyle_green : IsStyle takes "green".toList :=
  ⟨by decide, by decide, by rfl, by rfl⟩

theorem isStyle_yellow : IsStyle takes "yellow".toList :=
  ⟨by decide, by decide, by rfl, by rfl⟩

theorem isStyle_bold_red : IsStyle takes "bold red".toList :=
  ⟨by decide, by decide, by rfl, by rfl⟩

end Timetable.Markup
