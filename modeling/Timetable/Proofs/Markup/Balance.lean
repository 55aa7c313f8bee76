import Timetable.Proofs.Except
import Timetable.Proofs.Markup.Scan
import Mathlib.Data.List.Forall2

/-!
When the tags of a text can be gone through. Main statements: tags that open and close names can be
gone through exactly when no name is closed more often than it has been opened, and a text that can
be shown can be shown between the tags of a style, too.
-/
namespace Timetable.Markup

variable {takes : List Char → Bool} {t : Tag} {tags opened opened' : List Tag} {name cs : List Char}

/-! ### Moves -/

/-- What a tag does with a name. -/
inductive Move where
  | opens (name : List Char)
  | closes (name : List Char)
  deriving DecidableEq

/-- The move that a tag makes. None is made if a share of a color is missing, if a closing tag is
without a name, or if an action does not take its parameters. -/
inductive Tag.Makes (takes : List Char → Bool) : Tag → Move → Prop where
  | opens {t : Tag} {name : List Char} (hname : t.name.head? ≠ some '/')
      (hopening : opening t = .ok ⟨name, t.parameters⟩)
      (hclosable : isClosable takes ⟨name, t.parameters⟩ = true) : t.Makes takes (.opens name)
  | closes {t : Tag} {raw name : List Char} (hname : t.name = '/' :: raw) (hraw : Text.trim raw ≠ [])
      (hnormal : normalName (Text.trim raw) = .ok name) (hne : name ≠ []) :
      t.Makes takes (.closes name)

theorem step_of_opens (h : t.Makes takes (.opens name)) (opened : List Tag) :
    step takes opened t = .ok (⟨name, t.parameters⟩ :: opened) := by
  cases h with
  | opens hname hopening _ =>
      rw [step]
      split
      · next raw hraw => exact absurd (congrArg List.head? hraw) hname
      · rw [hopening]
        rfl

theorem step_of_closes (h : t.Makes takes (.closes name)) (opened : List Tag) :
    step takes opened t = close takes name opened := by
  cases h with
  | closes hname hraw hnormal _ =>
      rw [step, hname]
      simp [hraw, hnormal]

theorem close_of_mem (hopened : ∀ t ∈ opened, t.isClosable takes = true) (hne : name ≠ [])
    (h : name ∈ opened.map Tag.name) :
    ∃ left, close takes name opened = .ok left ∧ (∀ t ∈ left, t ∈ opened) ∧
      left.map Tag.name = (opened.map Tag.name).erase name := by
  induction opened with
  | nil => cases h
  | cons t opened ih =>
      rw [List.forall_mem_cons] at hopened
      by_cases heq : t.name = name
      · exact ⟨opened, by simp [close, heq, hopened.1], fun u hu => List.mem_cons_of_mem t hu,
          by simp [heq]⟩
      · obtain ⟨left, hleft, hsub, hnames⟩ := ih hopened.2
          ((List.mem_cons.mp h).resolve_left (Ne.symm heq))
        refine ⟨t :: left, ?_, ?_, ?_⟩
        · simp [close, heq, hne, hleft, Except.map]
        · exact List.forall_mem_cons.mpr
            ⟨List.mem_cons_self, fun u hu => List.mem_cons_of_mem t (hsub u hu)⟩
        · simp [heq, hnames]

theorem close_of_not_mem (hne : name ≠ []) (h : name ∉ opened.map Tag.name) :
    close takes name opened = .error .unopened := by
  induction opened with
  | nil => rfl
  | cons t opened ih =>
      rw [List.map_cons, List.mem_cons, not_or] at h
      have hother : (name.isEmpty || t.name == name) = false := by simp [hne, Ne.symm h.1]
      rw [close, hother, ih h.2]
      rfl

/-! ### Balance -/

/-- At no time a name is closed more often than it has been opened, if some names are open at the
start. -/
def IsBalanced (names : List (List Char)) (moves : List Move) : Prop :=
  ∀ front, front <+: moves → ∀ name,
    front.count (.closes name) ≤ front.count (.opens name) + names.count name

variable {names : List (List Char)} {moves : List Move}

theorem isBalanced_cons_iff {m : Move} :
    IsBalanced names (m :: moves) ↔ ∀ front, front <+: moves → ∀ name,
      (m :: front).count (.closes name) ≤ (m :: front).count (.opens name) + names.count name := by
  constructor
  · exact fun h front hfront => h (m :: front) (List.cons_prefix_cons.mpr ⟨rfl, hfront⟩)
  · intro h front hfront name
    cases front with
    | nil => simp
    | cons m' front =>
        obtain ⟨rfl, hprefix⟩ := List.cons_prefix_cons.mp hfront
        exact h front hprefix name

theorem isBalanced_opens_iff :
    IsBalanced names (.opens name :: moves) ↔ IsBalanced (name :: names) moves := by
  rw [isBalanced_cons_iff, IsBalanced]
  refine forall_congr' fun front => forall_congr' fun _ => forall_congr' fun other => ?_
  simp [List.count_cons]
  omega

theorem isBalanced_closes_iff (h : name ∈ names) :
    IsBalanced names (.closes name :: moves) ↔ IsBalanced (names.erase name) moves := by
  have hpos := List.count_pos_iff.mpr h
  rw [isBalanced_cons_iff, IsBalanced]
  refine forall_congr' fun front => forall_congr' fun _ => forall_congr' fun other => ?_
  by_cases heq : name = other
  · obtain rfl := heq
    simp [List.count_erase_self]
    omega
  · simp [heq, List.count_erase_of_ne (Ne.symm heq)]

theorem mem_of_isBalanced (h : IsBalanced names (.closes name :: moves)) : name ∈ names := by
  have hcount := h [.closes name] (List.cons_prefix_cons.mpr ⟨rfl, List.nil_prefix⟩) name
  rw [← List.count_pos_iff]
  simpa using hcount

theorem Tag.Makes.isClosable (h : t.Makes takes (.opens name)) :
    Tag.isClosable takes ⟨name, t.parameters⟩ = true := by
  cases h with
  | opens _ _ hclosable => exact hclosable

theorem Tag.Makes.ne_nil (h : t.Makes takes (.closes name)) : name ≠ [] := by
  cases h with
  | closes _ _ _ hne => exact hne

/-- The tags are gone through one by one, and what is open stays closable. -/
theorem exists_foldlM_step_iff (hmoves : List.Forall₂ (Tag.Makes takes) tags moves)
    (hopened : ∀ t ∈ opened, t.isClosable takes = true) :
    (∃ left, tags.foldlM (step takes) opened = .ok left) ↔ IsBalanced (opened.map Tag.name) moves := by
  induction hmoves generalizing opened with
  | nil =>
      refine iff_of_true ⟨opened, rfl⟩ fun front hfront name => ?_
      simp [List.prefix_nil.mp hfront]
  | @cons t m tags moves hmakes _ ih =>
      cases m with
      | opens name =>
          rw [List.foldlM_cons, step_of_opens hmakes, isBalanced_opens_iff]
          exact ih (List.forall_mem_cons.mpr ⟨hmakes.isClosable, hopened⟩)
      | closes name =>
          rw [List.foldlM_cons, step_of_closes hmakes]
          by_cases hmem : name ∈ opened.map Tag.name
          · obtain ⟨left, hleft, hsub, hnames⟩ := close_of_mem hopened hmakes.ne_nil hmem
            rw [hleft, isBalanced_closes_iff hmem, ← hnames]
            exact ih fun t ht => hopened t (hsub t ht)
          · -- A name that is not open cannot be closed, and the first move alone is out of balance.
            rw [close_of_not_mem hmakes.ne_nil hmem]
            refine iff_of_false ?_ (fun h => hmem (mem_of_isBalanced h))
            rintro ⟨left, hleft⟩
            cases hleft

/-- Whether a text can be shown is a matter of its tags: if each opens or closes a name, no name may
be closed more often than it has been opened. -/
theorem exists_plain_iff_isBalanced {moves : List Move}
    (hmoves : List.Forall₂ (Tag.Makes takes) (tagsIn cs) moves) :
    (∃ out, plain takes cs = .ok out) ↔ IsBalanced [] moves := by
  rw [exists_plain_iff, exists_foldlM_step_iff hmoves (List.forall_mem_nil _)]
  rfl

/-! ### Texts between the tags of a style -/

theorem close_append (h : close takes name opened = .ok opened') (more : List Tag) :
    close takes name (opened ++ more) = .ok (opened' ++ more) := by
  induction opened generalizing opened' with
  | nil => cases h
  | cons t opened ih =>
      rw [close] at h
      rw [List.cons_append, close]
      split at h
      · next heq =>
          rw [if_pos heq]
          split at h
          · next hclosable => rw [if_pos hclosable, ← Except.ok.inj h]
          · cases h
      · next hne =>
          obtain ⟨left, hleft, rfl⟩ := map_eq_ok_iff.mp h
          rw [if_neg hne, ih hleft]
          rfl

theorem step_append (h : step takes opened t = .ok opened') (more : List Tag) :
    step takes (opened ++ more) t = .ok (opened' ++ more) := by
  rw [step] at h ⊢
  split at h
  · next raw hraw =>
      simp only at h ⊢
      split at h
      · next hempty => rw [if_pos hempty, close_append h]
      · next hnamed =>
          rw [if_neg hnamed]
          split at h
          · cases h
          · exact close_append h more
  · obtain ⟨n, hn, rfl⟩ := map_eq_ok_iff.mp h
    rw [hn]
    rfl

theorem foldlM_step_append (h : tags.foldlM (step takes) opened = .ok opened') (more : List Tag) :
    tags.foldlM (step takes) (opened ++ more) = .ok (opened' ++ more) := by
  induction tags generalizing opened with
  | nil => exact Except.ok.inj h ▸ rfl
  | cons t tags ih =>
      rw [List.foldlM_cons] at h ⊢
      obtain ⟨left, hstep, hrest⟩ := bind_eq_ok_iff.mp h
      rw [step_append hstep]
      exact ih hrest

/-- The closing tag of a style closes the name of the style, which is none of an action. -/
structure ClosesItself (takes : List Char → Bool) (name : List Char) : Prop where
  closes : (tagOf ('/' :: name)).Makes takes (.closes name)
  noAction : name.head? ≠ some '@'

theorem exists_close (hname : ClosesItself takes name) (h : name ∈ opened.map Tag.name) :
    ∃ left, close takes name opened = .ok left := by
  have hne := hname.closes.ne_nil
  induction opened with
  | nil => cases h
  | cons t opened ih =>
      by_cases heq : t.name = name
      · exact ⟨opened, by simp [close, Tag.isClosable, heq, hname.noAction]⟩
      · obtain ⟨left, hleft⟩ := ih ((List.mem_cons.mp h).resolve_left (Ne.symm heq))
        exact ⟨t :: left, by simp [close, heq, hne, hleft, Except.map]⟩

theorem exists_foldlM_tagsBehind (hname : ClosesItself takes name) (h : name ∈ opened.map Tag.name)
    (cs : List Char) :
    ∃ left, (tagsBehind cs ('/' :: name)).foldlM (step takes) opened = .ok left := by
  rw [tagsBehind]
  split
  · exact ⟨opened, rfl⟩
  · obtain ⟨left, hleft⟩ := exists_close hname h
    exact ⟨left, by rw [List.foldlM_cons, step_of_closes hname.closes, hleft]; rfl⟩

theorem tagsIn_styled (hstyle : IsStyle takes name) (cs : List Char) :
    tagsIn (styled name cs) = tagOf name :: (tagsIn cs ++ tagsBehind cs ('/' :: name)) := by
  rw [styled, tagsIn_tag hstyle.opening]
  exact congrArg _ (tagsIn_append_tag cs hstyle.closing)

/-- Between the tags of a style stands text whose tags can be gone through with the style open. -/
theorem exists_plain_styled_iff (hstyle : IsStyle takes name) :
    (∃ out, plain takes (styled name cs) = .ok out) ↔ ∃ left,
      (tagsIn cs ++ tagsBehind cs ('/' :: name)).foldlM (step takes) [⟨name, none⟩] = .ok left := by
  rw [exists_plain_iff, tagsIn_styled hstyle, List.foldlM_cons, hstyle.opens]
  rfl

/-- What a text leaves open stands above the style, so that its closing tag finds it below. -/
theorem exists_plain_styled (hstyle : IsStyle takes name) (hname : ClosesItself takes name)
    (h : ∃ out, plain takes cs = .ok out) : ∃ out, plain takes (styled name cs) = .ok out := by
  obtain ⟨left, hleft⟩ := exists_plain_iff.mp h
  rw [exists_plain_styled_iff hstyle, List.foldlM_append]
  have hrun := foldlM_step_append hleft [⟨name, none⟩]
  rw [List.nil_append] at hrun
  rw [hrun]
  exact exists_foldlM_tagsBehind hname (by simp) cs

/-- A styled label does not change what is shown of the text behind it. -/
theorem plain_styled_append {label : List Char} (hstyle : IsStyle takes name) (hbracket : '[' ∉ label)
    (hslash : label.getLast? ≠ some '\\') (cs : List Char) :
    plain takes (styled name label ++ cs) = (plain takes cs).map (shownChars label ++ ·) := by
  have hshape : styled name label ++ cs =
      '[' :: name ++ ']' :: (label ++ ('[' :: ('/' :: name) ++ ']' :: cs)) := by
    simp [styled]
  obtain ⟨htags, hchars⟩ := pieces_append hbracket hslash ('[' :: ('/' :: name) ++ ']' :: cs)
  have hcharsTag : charsOf (pieces ('[' :: ('/' :: name) ++ ']' :: cs)) = charsOf (pieces cs) := by
    rw [pieces_tag hstyle.closing]
    rfl
  rw [hshape, plain, pieces_tag hstyle.opening, plainFrom, hstyle.opens]
  simp only
  rw [plainFrom_eq, ← tagsIn, htags, tagsIn_tag hstyle.closing, List.foldlM_cons, hstyle.closes,
    hchars, hcharsTag, shownChars_append, plain_eq]
  cases hrun : (tagsIn cs).foldlM (step takes) [] with
  | error e => simp [bind, Except.bind, hrun, Except.map]
  | ok left => simp [bind, Except.bind, hrun, Except.map]

theorem closesItself_green : ClosesItself takes "green".toList :=
  ⟨.closes rfl (by decide) rfl (by decide), by decide⟩

theorem closesItself_yellow : ClosesItself takes "yellow".toList :=
  ⟨.closes rfl (by decide) rfl (by decide), by decide⟩

theorem closesItself_bold_red : ClosesItself takes "bold red".toList :=
  ⟨.closes rfl (by decide) rfl (by decide), by decide⟩

end Timetable.Markup
