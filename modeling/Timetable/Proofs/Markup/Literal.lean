import Timetable.Proofs.Except
import Timetable.Proofs.Markup.Scan

/-!
Texts that are shown as they are. Main statement: a text is shown as it is exactly when it holds no
tag, no backslash before a bracket and no control character.
-/
namespace Timetable.Markup

variable {takes : List Char → Bool} {before cs rest inside : List Char} {ps : List Piece}

/-! ### Escapes -/

/-- A backslash stands before an opening bracket. -/
def HasEscape (cs : List Char) : Prop :=
  ['\\', '['] <:+: cs

theorem length_dropEscapes_le (cs : List Char) : (dropEscapes cs).length ≤ cs.length := by
  induction cs using dropEscapes.induct with
  | case1 cs ih =>
      rw [dropEscapes, List.length_cons, List.length_cons, List.length_cons]
      omega
  | case2 c cs hnot ih =>
      rw [dropEscapes, List.length_cons, List.length_cons]
      · omega
      · exact hnot
  | case3 => exact Nat.le_refl _

theorem dropEscapes_eq_self_iff : dropEscapes cs = cs ↔ ¬HasEscape cs := by
  induction cs using dropEscapes.induct with
  | case1 cs ih =>
      refine iff_of_false (fun h => ?_) (not_not_intro ⟨[], cs, rfl⟩)
      rw [dropEscapes] at h
      exact absurd (List.cons.inj h).1 (by decide)
  | case2 c cs hnot ih =>
      have hcons : HasEscape (c :: cs) ↔ HasEscape cs := by
        rw [HasEscape, HasEscape, List.infix_cons_iff]
        refine or_iff_right ?_
        rintro ⟨rest, hrest⟩
        obtain ⟨rfl, rfl⟩ := List.cons.inj hrest
        exact hnot rest rfl rfl
      rw [dropEscapes, hcons, ← ih, List.cons_inj_right]
      exact hnot
  | case3 => simp [dropEscapes, HasEscape]

/-! ### Tags -/

/-- Somewhere in a text stands a tag. -/
def HasTag (cs : List Char) : Prop :=
  ∃ front inside rest, IsInside inside ∧ cs = front ++ ('[' :: inside ++ ']' :: rest)

theorem hasTag_of_cons {c : Char} (h : HasTag (c :: cs)) (hnot : ¬StartsTag (c :: cs)) :
    HasTag cs := by
  obtain ⟨front, inside, rest, hinside, heq⟩ := h
  cases front with
  | nil => exact absurd ⟨0, inside, rest, hinside, heq⟩ hnot
  | cons d front => exact ⟨front, inside, rest, hinside, (List.cons.inj heq).2⟩

theorem HasTag.cons (h : HasTag cs) (c : Char) : HasTag (c :: cs) := by
  obtain ⟨front, inside, rest, hinside, rfl⟩ := h
  exact ⟨c :: front, inside, rest, hinside, rfl⟩

theorem length_charsOf_tagPieces (slashes : Nat) (inside : List Char) :
    (charsOf (tagPieces slashes inside)).length < slashes + inside.length + 2 := by
  have htexts : (charsOf (if slashes < 2 then [] else
      [.text (List.replicate (slashes / 2) '\\')])).length ≤ slashes / 2 := by
    split <;> simp [charsOf, Piece.chars]
  rw [tagPieces, charsOf_append, List.length_append]
  by_cases hodd : slashes % 2 = 1
  · have htag : (charsOf [if slashes % 2 = 1 then .text ('[' :: inside ++ [']']) else
        .tag (tagOf inside)]).length = inside.length + 2 := by
      simp [hodd, charsOf, Piece.chars]
    omega
  · have htag : (charsOf [if slashes % 2 = 1 then .text ('[' :: inside ++ [']']) else
        .tag (tagOf inside)]).length = 0 := by
      simp [hodd, charsOf, Piece.chars]
    omega

/-- No more is shown than there is, and less if a tag stands somewhere. -/
theorem Scans.length_charsOf (h : Scans before cs ps) :
    (charsOf ps).length ≤ before.length + cs.length ∧
      (HasTag cs → (charsOf ps).length < before.length + cs.length) := by
  induction h with
  | done before =>
      have hle := length_dropEscapes_le before.reverse
      rw [List.length_reverse] at hle
      refine ⟨by simpa using hle, ?_⟩
      rintro ⟨front, inside, rest, -, heq⟩
      simp at heq
  | skip hstarts _ ih =>
      obtain ⟨hle, hlt⟩ := ih
      rw [List.length_cons] at hle hlt ⊢
      refine ⟨by omega, fun htag => ?_⟩
      have hshorter := hlt (hasTag_of_cons htag hstarts)
      omega
  | @tag before rest inside ps slashes hinside _ ih =>
      have hbefore := length_dropEscapes_le before.reverse
      have htag := length_charsOf_tagPieces slashes inside
      have hlt : (charsOf (textPiece before.reverse ++ tagPieces slashes inside ++ ps)).length <
          before.length + (List.replicate slashes '\\' ++ ('[' :: inside ++ ']' :: rest)).length := by
        simp only [charsOf_append, charsOf_textPiece, List.length_append, List.length_cons,
          List.length_replicate, List.length_reverse, List.length_nil] at ih hbefore ⊢
        omega
      exact ⟨Nat.le_of_lt hlt, fun _ => hlt⟩

theorem Scans.eq_textPiece (h : Scans before cs ps) (hnot : ¬HasTag cs) :
    ps = textPiece (before.reverse ++ cs) := by
  induction h with
  | done before => rw [List.append_nil]
  | skip _ _ ih =>
      rw [ih fun htag => hnot (htag.cons _)]
      simp
  | tag slashes hinside _ _ => exact absurd ⟨_, _, _, hinside, rfl⟩ hnot

/-! ### Literal texts -/

/-- A text without anything that is not shown as it is. -/
structure IsLiteral (cs : List Char) : Prop where
  noTag : ¬HasTag cs
  noEscape : ¬HasEscape cs
  noControl : ∀ c ∈ cs, isControl c = false

theorem plain_of_not_hasTag (h : ¬HasTag cs) :
    plain takes cs = .ok (shownChars (dropEscapes cs)) := by
  have hpieces : pieces cs = textPiece cs := (scans_pieces_iff.mpr rfl).eq_textPiece h
  rw [plain_eq, tagsIn, hpieces, tagsOf_textPiece, charsOf_textPiece]
  rfl

theorem shownChars_eq_self_iff : shownChars cs = cs ↔ ∀ c ∈ cs, isControl c = false := by
  simp [shownChars, List.filter_eq_self]

theorem length_shownChars_le (cs : List Char) : (shownChars cs).length ≤ cs.length :=
  List.length_filter_le _ cs

/-- Whatever is lost makes the text shorter, so a text that is shown as it is has lost nothing. -/
theorem isLiteral_of_plain (h : plain takes cs = .ok cs) : IsLiteral cs := by
  have hchars : shownChars (charsOf (pieces cs)) = cs := by
    rw [plain_eq] at h
    obtain ⟨-, -, hchars⟩ := map_eq_ok_iff.mp h
    exact hchars
  have hnot : ¬HasTag cs := by
    intro htag
    have hlt := (scans_pieces_iff.mpr (rfl : pieces cs = _)).length_charsOf.2 htag
    have hle := length_shownChars_le (charsOf (pieces cs))
    rw [hchars] at hle
    rw [List.length_nil] at hlt
    omega
  have hshown : shownChars (dropEscapes cs) = cs := by
    rw [plain_of_not_hasTag hnot] at h
    exact Except.ok.inj h
  have hescapes : dropEscapes cs = cs := by
    have hsub : (shownChars (dropEscapes cs)).Sublist (dropEscapes cs) := List.filter_sublist
    rw [hshown] at hsub
    exact (hsub.eq_of_length_le (length_dropEscapes_le cs)).symm
  rw [hescapes] at hshown
  exact ⟨hnot, dropEscapes_eq_self_iff.mp hescapes, shownChars_eq_self_iff.mp hshown⟩

theorem plain_of_isLiteral (h : IsLiteral cs) : plain takes cs = .ok cs := by
  rw [plain_of_not_hasTag h.noTag, dropEscapes_eq_self_iff.mpr h.noEscape,
    shownChars_eq_self_iff.mpr h.noControl]

theorem plain_eq_self_iff : plain takes cs = .ok cs ↔ IsLiteral cs :=
  ⟨isLiteral_of_plain, plain_of_isLiteral⟩

end Timetable.Markup
