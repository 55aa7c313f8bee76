import Timetable.Proofs.Markup.Plain

/-!
How a text is cut at its tags. What is shown of the pieces does not depend on the tags; these only
decide whether it is shown. Main statements: the tags of a text behind text without tags, behind a
tag and before a tag.
-/
namespace Timetable.Markup

variable {takes : List Char → Bool} {before cs rest inside front : List Char} {ps : List Piece}

/-! ### Characters and tags of pieces -/

def Piece.chars : Piece → List Char
  | text cs => cs
  | tag _ => []

def Piece.tag? : Piece → Option Tag
  | text _ => none
  | tag t => some t

def charsOf (ps : List Piece) : List Char :=
  ps.flatMap Piece.chars

def tagsOf (ps : List Piece) : List Tag :=
  ps.filterMap Piece.tag?

@[simp]
theorem charsOf_append (ps qs : List Piece) : charsOf (ps ++ qs) = charsOf ps ++ charsOf qs :=
  List.flatMap_append

@[simp]
theorem tagsOf_append (ps qs : List Piece) : tagsOf (ps ++ qs) = tagsOf ps ++ tagsOf qs :=
  List.filterMap_append

@[simp]
theorem charsOf_textPiece (cs : List Char) : charsOf (textPiece cs) = dropEscapes cs := by
  cases cs with
  | nil => rfl
  | cons c cs => simp [textPiece, charsOf, Piece.chars]

@[simp]
theorem tagsOf_textPiece (cs : List Char) : tagsOf (textPiece cs) = [] := by
  cases cs with
  | nil => rfl
  | cons c cs => rfl

theorem shownChars_append (front cs : List Char) :
    shownChars (front ++ cs) = shownChars front ++ shownChars cs :=
  List.filter_append front cs

/-- What is shown are the characters of the pieces, if the tags can be gone through. -/
theorem plainFrom_eq (opened : List Tag) (ps : List Piece) :
    plainFrom takes opened ps =
      ((tagsOf ps).foldlM (step takes) opened).map fun _ => shownChars (charsOf ps) := by
  induction ps generalizing opened with
  | nil => rfl
  | cons p ps ih =>
      cases p with
      | text cs =>
          rw [plainFrom, ih]
          have hchars : shownChars (charsOf (.text cs :: ps)) =
              shownChars cs ++ shownChars (charsOf ps) :=
            shownChars_append cs (charsOf ps)
          have htags : tagsOf (.text cs :: ps) = tagsOf ps := rfl
          rw [hchars, htags]
          cases (tagsOf ps).foldlM (step takes) opened <;> rfl
      | tag t =>
          have hchars : charsOf (.tag t :: ps) = charsOf ps := rfl
          have htags : tagsOf (.tag t :: ps) = t :: tagsOf ps := rfl
          rw [plainFrom, hchars, htags, List.foldlM_cons]
          cases hstep : step takes opened t with
          | error e => rfl
          | ok opened' => exact ih opened'

/-! ### Where a tag starts -/

theorem not_bracket_of_startsTag {c : Char} (h : startsTag c = true) :
    (c != '[' && c != ']') = true := by
  rw [Bool.and_eq_true, bne_iff_ne, bne_iff_ne]
  constructor
  · rintro rfl
    exact absurd h (by decide)
  · rintro rfl
    exact absurd h (by decide)

theorem isInside_of_takeTag (h : takeTag cs = some (inside, rest)) :
    IsInside inside ∧ cs = '[' :: inside ++ ']' :: rest := by
  unfold takeTag at h
  split at h
  · next c cs =>
      split at h
      · next hstarts =>
          simp only at h
          split at h
          · next rest' hdrop =>
              obtain ⟨rfl, rfl⟩ := Prod.mk.inj (Option.some.inj h)
              have hsplit := List.take_append_drop
                (cs.takeWhile fun x => x != '[' && x != ']').length cs
              rw [hdrop, ← List.prefix_iff_eq_take.mp (List.takeWhile_prefix _)] at hsplit
              refine ⟨⟨⟨c, rfl, hstarts⟩, ?_⟩, by rw [List.cons_append, List.cons_append, hsplit]⟩
              rw [List.forall_mem_cons]
              exact ⟨not_bracket_of_startsTag hstarts, List.all_eq_true.mp List.all_takeWhile⟩
          · cases h
      · cases h
  · cases h

/-- At the front of a text stands a tag, maybe behind backslashes. -/
def StartsTag (cs : List Char) : Prop :=
  ∃ slashes inside rest, IsInside inside ∧
    cs = List.replicate slashes '\\' ++ ('[' :: inside ++ ']' :: rest)

theorem takeWhile_slashes (slashes : Nat) (cs : List Char) :
    (List.replicate slashes '\\' ++ '[' :: cs).takeWhile (· == '\\') =
      List.replicate slashes '\\' := by
  rw [List.takeWhile_append_of_pos fun x hx => by simp [List.eq_of_mem_replicate hx]]
  simp

theorem dropWhile_slashes (slashes : Nat) (cs : List Char) :
    (List.replicate slashes '\\' ++ '[' :: cs).dropWhile (· == '\\') = '[' :: cs := by
  rw [List.dropWhile_append_of_pos fun x hx => by simp [List.eq_of_mem_replicate hx]]
  simp

theorem eq_replicate_append (cs : List Char) :
    cs = List.replicate (cs.takeWhile (· == '\\')).length '\\' ++ cs.dropWhile (· == '\\') := by
  have hslashes : cs.takeWhile (· == '\\') =
      List.replicate (cs.takeWhile (· == '\\')).length '\\' :=
    List.eq_replicate_of_mem fun x hx => eq_of_beq (List.all_eq_true.mp List.all_takeWhile x hx)
  rw [← hslashes, List.takeWhile_append_dropWhile]

theorem takeTag_eq_none_iff :
    takeTag (cs.dropWhile (· == '\\')) = none ↔ ¬StartsTag cs := by
  constructor
  · rintro h ⟨slashes, inside, rest, hinside, rfl⟩
    rw [List.cons_append, dropWhile_slashes, ← List.cons_append, takeTag_of_isInside hinside] at h
    cases h
  · intro h
    cases htake : takeTag (cs.dropWhile (· == '\\')) with
    | none => rfl
    | some p =>
        obtain ⟨hinside, hdrop⟩ := isInside_of_takeTag htake
        exact absurd ⟨_, p.1, p.2, hinside, hdrop ▸ eq_replicate_append cs⟩ h

/-! ### Scans -/

/-- What backslashes and the tag behind them make. -/
def tagPieces (slashes : Nat) (inside : List Char) : List Piece :=
  (if slashes < 2 then [] else [.text (List.replicate (slashes / 2) '\\')]) ++
    [if slashes % 2 = 1 then .text ('[' :: inside ++ [']']) else .tag (tagOf inside)]

/-- The pieces of a text behind text that holds no tag, the last character of which comes first. -/
inductive Scans : List Char → List Char → List Piece → Prop where
  | done (before : List Char) : Scans before [] (textPiece before.reverse)
  | skip {before : List Char} {c : Char} {cs : List Char} {ps : List Piece}
      (h : ¬StartsTag (c :: cs)) (hrest : Scans (c :: before) cs ps) : Scans before (c :: cs) ps
  | tag {before rest inside : List Char} {ps : List Piece} (slashes : Nat) (h : IsInside inside)
      (hrest : Scans [] rest ps) :
      Scans before (List.replicate slashes '\\' ++ ('[' :: inside ++ ']' :: rest))
        (textPiece before.reverse ++ tagPieces slashes inside ++ ps)

theorem piecesFrom_skip {c : Char} (h : ¬StartsTag (c :: cs)) (fuel : Nat) (before : List Char) :
    piecesFrom (fuel + 1) before (c :: cs) = piecesFrom fuel (c :: before) cs := by
  rw [piecesFrom]
  simp only [drop_slashes, takeTag_eq_none_iff.mpr h]

theorem piecesFrom_tagPieces (h : IsInside inside) (fuel slashes : Nat) (before rest : List Char) :
    piecesFrom (fuel + 1) before
        (List.replicate slashes '\\' ++ ('[' :: inside ++ ']' :: rest)) =
      textPiece before.reverse ++ tagPieces slashes inside ++ piecesFrom fuel [] rest := by
  obtain ⟨c, cs, hcs⟩ : ∃ c cs,
      List.replicate slashes '\\' ++ ('[' :: inside ++ ']' :: rest) = c :: cs :=
    List.exists_cons_of_ne_nil (by simp)
  have htag := takeTag_of_isInside h rest
  have htake : (c :: cs).takeWhile (· == '\\') = List.replicate slashes '\\' :=
    hcs ▸ takeWhile_slashes slashes _
  have hdrop : (c :: cs).drop slashes = '[' :: inside ++ ']' :: rest :=
    hcs ▸ List.drop_left' List.length_replicate
  rw [hcs, piecesFrom]
  simp only [htake, List.length_replicate, hdrop, htag, tagPieces, List.append_assoc,
    List.singleton_append]

theorem scans_piecesFrom {fuel : Nat} (h : cs.length < fuel) :
    Scans before cs (piecesFrom fuel before cs) := by
  induction fuel generalizing before cs with
  | zero => exact absurd h (Nat.not_lt_zero _)
  | succ fuel ih =>
      by_cases hstarts : StartsTag cs
      · obtain ⟨slashes, inside, rest, hinside, rfl⟩ := hstarts
        rw [piecesFrom_tagPieces hinside]
        refine .tag slashes hinside (ih ?_)
        simp only [List.length_append, List.length_cons] at h
        omega
      · cases cs with
        | nil => exact .done before
        | cons c cs =>
            rw [piecesFrom_skip hstarts]
            exact .skip hstarts (ih (Nat.lt_of_succ_lt_succ h))

theorem Scans.eq_piecesFrom (hscans : Scans before cs ps) {fuel : Nat} (h : cs.length < fuel) :
    ps = piecesFrom fuel before cs := by
  induction hscans generalizing fuel with
  | done before =>
      cases fuel with
      | zero => exact absurd h (Nat.not_lt_zero _)
      | succ fuel => rfl
  | skip hstarts _ ih =>
      cases fuel with
      | zero => exact absurd h (Nat.not_lt_zero _)
      | succ fuel => rw [piecesFrom_skip hstarts, ih (Nat.lt_of_succ_lt_succ h)]
  | tag slashes hinside _ ih =>
      cases fuel with
      | zero => exact absurd h (Nat.not_lt_zero _)
      | succ fuel =>
          simp only [List.length_append, List.length_cons] at h
          rw [piecesFrom_tagPieces hinside, ← ih (by omega)]

theorem scans_pieces_iff : Scans [] cs ps ↔ ps = pieces cs := by
  constructor
  · exact fun h => h.eq_piecesFrom (Nat.lt_succ_self _)
  · rintro rfl
    exact scans_piecesFrom (Nat.lt_succ_self _)

/-! ### Tags of texts -/

/-- The tags of a text. -/
def tagsIn (cs : List Char) : List Tag :=
  tagsOf (pieces cs)

theorem plain_eq (cs : List Char) :
    plain takes cs =
      ((tagsIn cs).foldlM (step takes) []).map fun _ => shownChars (charsOf (pieces cs)) :=
  plainFrom_eq [] (pieces cs)

theorem exists_plain_iff :
    (∃ out, plain takes cs = .ok out) ↔
      ∃ opened, (tagsIn cs).foldlM (step takes) [] = .ok opened := by
  rw [plain_eq]
  cases (tagsIn cs).foldlM (step takes) [] with
  | error e => simp [Except.map]
  | ok opened => simp [Except.map]

@[simp]
theorem tagsOf_tagPieces (slashes : Nat) (inside : List Char) :
    tagsOf (tagPieces slashes inside) = if slashes % 2 = 1 then [] else [tagOf inside] := by
  have htexts : tagsOf (if slashes < 2 then [] else [.text (List.replicate (slashes / 2) '\\')]) =
      [] := by
    split <;> rfl
  rw [tagPieces, tagsOf_append, htexts, List.nil_append]
  split <;> rfl

theorem exists_cons_of_getLast {c : Char} (h : (c :: front).getLast? ≠ some '\\')
    (hslash : c = '\\') : ∃ d rest, front = d :: rest := by
  cases front with
  | nil => exact absurd (congrArg some hslash) h
  | cons d rest => exact ⟨d, rest, rfl⟩

theorem getLast_of_cons {c : Char} (h : (c :: front).getLast? ≠ some '\\') :
    front.getLast? ≠ some '\\' := by
  cases front with
  | nil => simp
  | cons d rest => rwa [List.getLast?_cons_cons] at h

theorem dropEscapes_append (hbracket : '[' ∉ front) (hslash : front.getLast? ≠ some '\\')
    (cs : List Char) : dropEscapes (front ++ cs) = front ++ dropEscapes cs := by
  induction front with
  | nil => rfl
  | cons c front ih =>
      rw [List.mem_cons, not_or] at hbracket
      rw [List.cons_append, dropEscapes, ih hbracket.2 (getLast_of_cons hslash), List.cons_append]
      rintro rest hc hrest
      obtain ⟨d, tail, rfl⟩ := exists_cons_of_getLast hslash hc
      obtain ⟨rfl, -⟩ := List.cons.inj hrest
      exact hbracket.2 List.mem_cons_self

theorem not_startsTag_append {c : Char} (hbracket : '[' ∉ c :: front)
    (hslash : (c :: front).getLast? ≠ some '\\') (cs : List Char) :
    ¬StartsTag (c :: front ++ cs) := by
  rintro ⟨slashes, inside, rest, -, heq⟩
  -- The bracket would have to stand in the front, or the front would be all backslashes.
  have hsome : ¬∀ d ∈ c :: front, d = '\\' := by
    intro hall
    exact hslash (hall _ (List.getLast_mem (List.cons_ne_nil c front)) ▸
      List.getLast?_eq_some_getLast (List.cons_ne_nil c front))
  rcases List.append_eq_append_iff.mp heq with ⟨more, hslashes, -⟩ | ⟨more, hfront, hmore⟩
  · exact hsome fun d hd => List.eq_of_mem_replicate (hslashes ▸ List.mem_append_left more hd)
  · cases more with
    | nil =>
        rw [List.append_nil] at hfront
        exact hsome fun d hd => List.eq_of_mem_replicate (hfront ▸ hd)
    | cons d more =>
        obtain ⟨rfl, -⟩ : '[' = d ∧ _ := List.cons.inj hmore
        exact hbracket (hfront ▸ List.mem_append_right _ List.mem_cons_self)

/-- Text without brackets that does not end in a backslash stays where it is, before all pieces. -/
theorem Scans.append_front (h : Scans before cs ps) (hbracket : '[' ∉ front)
    (hslash : front.getLast? ≠ some '\\') :
    ∃ qs, Scans (before ++ front.reverse) cs qs ∧ tagsOf qs = tagsOf ps ∧
      charsOf qs = front ++ charsOf ps := by
  have hreverse (before : List Char) :
      (before ++ front.reverse).reverse = front ++ before.reverse := by
    simp
  induction h with
  | done before =>
      refine ⟨_, .done _, by simp, ?_⟩
      rw [hreverse, charsOf_textPiece, charsOf_textPiece, dropEscapes_append hbracket hslash]
  | skip hstarts _ ih =>
      obtain ⟨qs, hscans, htags, hchars⟩ := ih
      exact ⟨qs, .skip hstarts hscans, htags, hchars⟩
  | tag slashes hinside hrest _ =>
      refine ⟨_, .tag slashes hinside hrest, by simp, ?_⟩
      simp [hreverse, dropEscapes_append hbracket hslash]

theorem Scans.skip_front (h : Scans (front.reverse ++ before) cs ps) (hbracket : '[' ∉ front)
    (hslash : front.getLast? ≠ some '\\') : Scans before (front ++ cs) ps := by
  induction front generalizing before with
  | nil => exact h
  | cons c front ih =>
      refine .skip (not_startsTag_append hbracket hslash cs) (ih ?_ ?_ (getLast_of_cons hslash))
      · simpa using h
      · exact fun hmem => hbracket (List.mem_cons_of_mem c hmem)

theorem pieces_append (hbracket : '[' ∉ front) (hslash : front.getLast? ≠ some '\\')
    (cs : List Char) :
    tagsIn (front ++ cs) = tagsIn cs ∧
      charsOf (pieces (front ++ cs)) = front ++ charsOf (pieces cs) := by
  obtain ⟨qs, hscans, htags, hchars⟩ :=
    (scans_pieces_iff.mpr (rfl : pieces cs = _)).append_front hbracket hslash
  rw [List.nil_append, ← List.append_nil front.reverse] at hscans
  rw [tagsIn, ← scans_pieces_iff.mp (hscans.skip_front hbracket hslash)]
  exact ⟨htags, hchars⟩

theorem pieces_tag (h : IsInside inside) (rest : List Char) :
    pieces ('[' :: inside ++ ']' :: rest) = .tag (tagOf inside) :: pieces rest :=
  (scans_pieces_iff.mp (.tag 0 h (scans_pieces_iff.mpr rfl))).symm

theorem tagsIn_tag (h : IsInside inside) (rest : List Char) :
    tagsIn ('[' :: inside ++ ']' :: rest) = tagOf inside :: tagsIn rest := by
  rw [tagsIn, pieces_tag h]
  rfl

theorem plain_append (hbracket : '[' ∉ front) (hslash : front.getLast? ≠ some '\\')
    (cs : List Char) : plain takes (front ++ cs) = (plain takes cs).map (shownChars front ++ ·) := by
  obtain ⟨htags, hchars⟩ := pieces_append hbracket hslash cs
  rw [plain_eq, plain_eq, htags, hchars, shownChars_append]
  cases (tagsIn cs).foldlM (step takes) [] <;> rfl

/-! ### Tags behind texts -/

/-- The number of backslashes at the end of a text. -/
def slashesAtEnd (cs : List Char) : Nat :=
  (cs.reverse.takeWhile (· == '\\')).length

theorem slashesAtEnd_replicate (n : Nat) : slashesAtEnd (List.replicate n '\\') = n := by
  simp [slashesAtEnd]

/-- Only the end of a text counts, unless it is all backslashes. -/
theorem slashesAtEnd_append (h : front.getLast? = some '\\' → ∃ c ∈ cs, c ≠ '\\') :
    slashesAtEnd (front ++ cs) = slashesAtEnd cs := by
  rw [slashesAtEnd, slashesAtEnd, List.reverse_append, List.takeWhile_append]
  split
  · next hall =>
      have hfront : front.reverse.takeWhile (· == '\\') = [] := by
        cases hreverse : front.reverse with
        | nil => rfl
        | cons c rest =>
            refine List.takeWhile_cons_of_neg fun hslash => ?_
            obtain ⟨d, hd, hne⟩ := h (by
              rw [List.getLast?_eq_head?_reverse, hreverse, eq_of_beq hslash]
              rfl)
            have htake : cs.reverse.takeWhile (· == '\\') = cs.reverse :=
              (List.takeWhile_prefix _).eq_of_length hall
            have hmem : d ∈ cs.reverse.takeWhile (· == '\\') := by
              rw [htake]
              exact List.mem_reverse.mpr hd
            exact hne (eq_of_beq (List.all_eq_true.mp List.all_takeWhile d hmem))
      rw [hfront, List.append_nil, ← hall]
  · rfl

/-- The tags that a tag makes behind a text: of the backslashes before it one may be left over that
takes it for text. -/
def tagsBehind (cs inside : List Char) : List Tag :=
  if slashesAtEnd cs % 2 = 1 then [] else [tagOf inside]

/-- A tag that starts in a text with a tag behind it starts in the text, unless that is all
backslashes. -/
theorem startsTag_of_append (h : StartsTag (cs ++ ('[' :: inside ++ [']']))) :
    StartsTag cs ∨ ∀ c ∈ cs, c = '\\' := by
  obtain ⟨slashes, found, rest, hfound, heq⟩ := h
  rcases List.append_eq_append_iff.mp heq with ⟨more, hslashes, -⟩ | ⟨tail, rfl, htail⟩
  · refine Or.inr fun c hc => ?_
    exact List.eq_of_mem_replicate (hslashes ▸ List.mem_append_left more hc)
  · cases tail with
    | nil => exact Or.inr fun c hc => List.eq_of_mem_replicate (List.append_nil _ ▸ hc)
    | cons c tail =>
        obtain ⟨rfl, hrest⟩ : '[' = c ∧ found ++ ']' :: rest = tail ++ ('[' :: inside ++ [']']) :=
          List.cons.inj htail
        -- The inside of a tag holds no bracket, so that it ends before the tag behind the text begins.
        rcases List.append_eq_append_iff.mp hrest with ⟨more, rfl, hmore⟩ | ⟨more, rfl, hmore⟩
        · cases more with
          | nil => cases hmore
          | cons d more =>
              obtain ⟨rfl, -⟩ : ']' = d ∧ _ := List.cons.inj hmore
              exact Or.inl ⟨slashes, found, more, hfound, rfl⟩
        · cases more with
          | nil => cases hmore
          | cons d more =>
              obtain ⟨rfl, -⟩ : '[' = d ∧ _ := List.cons.inj hmore
              have hmem : '[' ∈ tail ++ '[' :: more := List.mem_append_right tail List.mem_cons_self
              exact absurd (hfound.closed '[' hmem) (by decide)

theorem Scans.tagsOf_of_not_mem (h : Scans before cs ps) (hbracket : '[' ∉ cs) : tagsOf ps = [] := by
  rw [h.eq_piecesFrom (Nat.lt_succ_self _), piecesFrom_of_not_mem hbracket, tagsOf_textPiece]

theorem Scans.append_tag (h : Scans before cs ps) (hinside : IsInside inside) :
    ∃ qs, Scans before (cs ++ ('[' :: inside ++ [']'])) qs ∧
      tagsOf qs = tagsOf ps ++ tagsBehind cs inside := by
  induction h with
  | done before =>
      refine ⟨_, .tag 0 hinside (.done []), ?_⟩
      simp [tagsBehind, slashesAtEnd]
  | @skip before c cs ps hstarts hrest ih =>
      -- Behind nothing but backslashes the tag is found at once, else only in the rest of the text.
      by_cases hall : ∀ d ∈ c :: cs, d = '\\'
      · have hnone : '[' ∉ cs := fun hmem =>
          absurd (hall '[' (List.mem_cons_of_mem c hmem)) (by decide)
        have hslashes : c :: cs = List.replicate (cs.length + 1) '\\' := List.eq_replicate_of_mem hall
        rw [hslashes, tagsBehind, slashesAtEnd_replicate, hrest.tagsOf_of_not_mem hnone]
        refine ⟨_, .tag (cs.length + 1) hinside (.done []), ?_⟩
        simp
      · obtain ⟨qs, hscans, htags⟩ := ih
        have hnot : ¬StartsTag (c :: cs ++ ('[' :: inside ++ [']'])) := by
          intro h
          rcases startsTag_of_append h with h | h
          · exact hstarts h
          · exact hall h
        have hend : slashesAtEnd ([c] ++ cs) = slashesAtEnd cs := by
          refine slashesAtEnd_append fun hlast => ?_
          simp only [List.getLast?_singleton, Option.some.injEq] at hlast
          simpa [hlast] using hall
        rw [List.singleton_append] at hend
        exact ⟨qs, .skip hnot hscans, by rw [htags, tagsBehind, tagsBehind, hend]⟩
  | @tag before rest found ps slashes hfound hrest ih =>
      obtain ⟨qs, hscans, htags⟩ := ih
      have hend : slashesAtEnd (List.replicate slashes '\\' ++ ('[' :: found ++ ']' :: rest)) =
          slashesAtEnd rest := by
        have hsplit : List.replicate slashes '\\' ++ ('[' :: found ++ ']' :: rest) =
            List.replicate slashes '\\' ++ ('[' :: found ++ [']']) ++ rest := by simp
        rw [hsplit]
        refine slashesAtEnd_append fun hlast => ?_
        rw [← List.append_assoc, List.getLast?_concat] at hlast
        exact absurd hlast (by decide)
      refine ⟨textPiece before.reverse ++ tagPieces slashes found ++ qs, ?_, ?_⟩
      · have htag : Scans before _ _ := .tag slashes hfound hscans
        simpa using htag
      · rw [tagsBehind, hend, ← tagsBehind, tagsOf_append, htags, ← List.append_assoc,
          ← tagsOf_append]

theorem tagsIn_append_tag (cs : List Char) (h : IsInside inside) :
    tagsIn (cs ++ ('[' :: inside ++ [']'])) = tagsIn cs ++ tagsBehind cs inside := by
  obtain ⟨qs, hscans, htags⟩ := (scans_pieces_iff.mpr (rfl : pieces cs = _)).append_tag h
  rw [tagsIn, ← scans_pieces_iff.mp hscans, htags]
  rfl

end Timetable.Markup
