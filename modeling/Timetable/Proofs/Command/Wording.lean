import Timetable.Command
import Timetable.Proofs.Markup.Balance
import Timetable.Proofs.Page.Lines
import Timetable.Proofs.WindowSet.Items
import Timetable.Proofs.WindowSet.Written

/-!
The lines of commands. Main statements: an instant is printed as one line in its long form, and the
lines of verdicts and troubles can be shown if no bracket opens in what stands in them.
-/
namespace Timetable

open Text (AreInk)

/-! ### Texts without brackets -/

theorem Weekday.areInk_capitalName (d : Weekday) : AreInk d.capitalName := by
  cases d <;> decide

theorem Window.bracket_not_mem_text (w : Window) : '[' ∉ w.text :=
  w.not_mem_text (fun d => d.areInk_capitalName.not_mem_bracket)
    (fun t => t.areInk_clockText.not_mem_bracket) (by decide) (by decide)

theorem Text.not_mem_joinWith {c : Char} {sep : List Char} {pieces : List (List Char)}
    (hsep : c ∉ sep) (h : ∀ piece ∈ pieces, c ∉ piece) : c ∉ joinWith sep pieces := by
  induction pieces with
  | nil => simp [joinWith]
  | cons piece pieces ih =>
      rw [List.forall_mem_cons] at h
      cases pieces with
      | nil => exact h.1
      | cons next pieces => simp [joinWith, h.1, hsep, ih h.2]

theorem WindowSet.bracket_not_mem_render (s : WindowSet) : '[' ∉ s.render.toList := by
  rw [render, Text.join, String.toList_ofList]
  refine Text.not_mem_joinWith (by decide) ?_
  simp only [List.forall_mem_map]
  intro w _
  rw [Window.render, String.toList_ofList]
  exact w.bracket_not_mem_text

theorem Instant.bracket_not_mem_dateTimeText (i : Instant) : '[' ∉ i.dateTimeText := by
  have hdate := i.date.areInk_shortText.not_mem_bracket
  have htime := i.time.areInk_clockText.not_mem_bracket
  simp [dateTimeText, hdate, htime]

theorem Markup.shownChars_of_areInk {cs : List Char} (h : AreInk cs) : shownChars cs = cs := by
  rw [shownChars, List.filter_eq_self]
  intro c hc
  have hlow := (h c hc).1
  simp only [isControl, Bool.not_eq_true', Bool.or_eq_false_iff, beq_eq_false_iff_ne]
  omega

namespace Command

variable {host : Host}

/-! ### What can be shown -/

/-- A text can be shown: its tags turn off only what other tags have turned on. -/
def Shows (host : Host) (text : String) : Prop :=
  ∃ cs, shown host text = .ok cs

theorem printed_eq_ok_iff {text : String} {lines : List String} :
    printed host text = .ok lines ↔
      ∃ cs, shown host text = .ok cs ∧ (Page.wrap .fold pageWidth cs).map String.ofList = lines :=
  map_eq_ok_iff

theorem exists_printed_iff {text : String} :
    (∃ lines, printed host text = .ok lines) ↔ Shows host text := by
  simp only [printed_eq_ok_iff, Shows]
  constructor
  · rintro ⟨_, cs, hcs, -⟩
    exact ⟨cs, hcs⟩
  · rintro ⟨cs, hcs⟩
    exact ⟨_, cs, hcs, rfl⟩

theorem shown_of_not_mem {text : String} (h : '[' ∉ text.toList) :
    shown host text = .ok (Markup.shownChars text.toList) := by
  rw [shown, Markup.plain_of_not_mem h]
  rfl

theorem shows_of_not_mem {text : String} (h : '[' ∉ text.toList) : Shows host text :=
  ⟨_, shown_of_not_mem h⟩

theorem shows_iff_exists_plain {text : String} :
    Shows host text ↔ ∃ out, Markup.plain host.takes text.toList = .ok out := by
  simp only [Shows, shown, mapError_eq_ok_iff]

/-- A text can be shown exactly when its tags can be gone through. -/
theorem shows_iff {text : String} :
    Shows host text ↔
      ∃ opened, (Markup.tagsIn text.toList).foldlM (Markup.step host.takes) [] = .ok opened :=
  shows_iff_exists_plain.trans Markup.exists_plain_iff

theorem shows_of_styled {text : String} {name : List Char} (cs : List Char)
    (hstyle : Markup.IsStyle host.takes name) (hname : Markup.ClosesItself host.takes name)
    (htext : text.toList = Markup.styled name cs)
    (h : ∃ out, Markup.plain host.takes cs = .ok out) : Shows host text := by
  rw [shows_iff_exists_plain, htext]
  exact Markup.exists_plain_styled hstyle hname h

/-! ### Instants -/

theorem printed_isoText (i : Instant) :
    printed host (String.ofList i.isoText) = .ok [String.ofList i.isoText] := by
  have hink := i.areInk_isoText
  have hlength : i.isoText.length ≤ pageWidth := i.length_isoText_le.trans (by decide)
  refine printed_eq_ok_iff.mpr ⟨i.isoText, ?_, ?_⟩
  · rw [shown_of_not_mem (by simpa using hink.not_mem_bracket), String.toList_ofList,
      Markup.shownChars_of_areInk hink]
  · rw [Page.wrap_of_areInk hink i.isoText_ne_nil hlength]
    rfl

theorem mapM_printed_isoText (is : List Instant) :
    (is.mapM fun i => printed host (String.ofList i.isoText)) =
      .ok (is.map fun i => [String.ofList i.isoText]) := by
  induction is with
  | nil => rfl
  | cons i is ih =>
      rw [List.mapM_cons, printed_isoText, ih]
      rfl

/-- The instants that are found are printed, up to the first that has no long form. -/
theorem matching_eq (s : WindowSet) (is : List Instant) :
    matching host s is =
      if (s.select is).all Instant.hasIsoText then
        .ok ⟨if (s.select is).isEmpty then exitOutside else exitWithin,
          (s.select is).map fun i => String.ofList i.isoText⟩
      else .error (.noIsoText
        (((s.select is).takeWhile Instant.hasIsoText).map fun i => String.ofList i.isoText)) := by
  have hflatten (is : List Instant) : (is.map fun i => [String.ofList i.isoText]).flatten =
      is.map fun i => String.ofList i.isoText := by
    rw [← List.flatMap_def, List.map_eq_flatMap]
  rw [matching, mapM_printed_isoText]
  simp only [bind, Except.bind, hflatten]
  by_cases hall : (s.select is).all Instant.hasIsoText = true
  · rw [if_pos hall, if_pos hall, List.takeWhile_eq_self_iff.mpr (List.all_eq_true.mp hall)]
    rfl
  · rw [if_neg hall, if_neg hall]

/-- All instants that are found have long forms. -/
def HaveIsoTexts (s : WindowSet) (is : List Instant) : Prop :=
  ∀ i ∈ is, s.contains i = true → i.hasIsoText = true

theorem all_hasIsoText_iff {s : WindowSet} {is : List Instant} :
    (s.select is).all Instant.hasIsoText = true ↔ HaveIsoTexts s is := by
  rw [List.all_eq_true]
  simp only [WindowSet.select, List.mem_filter, HaveIsoTexts, and_imp]

/-- The long form of each instant that is found is printed. -/
theorem matching_of_haveIsoTexts {s : WindowSet} {is : List Instant} (h : HaveIsoTexts s is) :
    matching host s is =
      .ok ⟨if (s.select is).isEmpty then exitOutside else exitWithin,
        (s.select is).map fun i => String.ofList i.isoText⟩ := by
  rw [matching_eq, if_pos (all_hasIsoText_iff.mpr h)]

theorem haveIsoTexts_of_matching {s : WindowSet} {is : List Instant} {report : Report}
    (h : matching host s is = .ok report) : HaveIsoTexts s is := by
  rw [matching_eq] at h
  split at h
  · next hall => exact all_hasIsoText_iff.mp hall
  · cases h

/-! ### Commands that are told what they are about -/

section Inputs

variable {f : Folder} {now : Instant} {selection : Selection} {instant config : Option String}

theorem run_check_of_input {s : WindowSet} {i : Instant}
    (h : checkInput f now selection instant config = .ok (s, i)) :
    run host f now (.check selection instant config) =
      verdict host s ((nonempty selection.schedule).getD s.render) i := by
  rw [run, runCheck, h, orReport]

theorem run_filter_of_input {texts : List String} {s : WindowSet} {is : List Instant}
    (h : filterInput f now selection texts config = .ok (s, is)) :
    run host f now (.filter selection texts config) = matching host s is := by
  rw [run, runFilter, h, orReport]

theorem run_schedules_of_input {k : Checker} {i : Instant}
    (h : schedulesInput f now instant config = .ok (k, i)) :
    run host f now (.schedules instant config) = overview host k i := by
  rw [run, runSchedules, h, orReport]

end Inputs

/-! ### Troubles -/

/-- The line of a trouble shows its message behind a label, whatever the message holds. -/
theorem Trouble.shown_line (t : Trouble) :
    shown host (t.line host) = (shown host (t.message host)).map ("Error: ".toList ++ ·) := by
  have hline : t.line host = "[bold red]Error:[/bold red] " ++ t.message host := rfl
  have hstyled : "[bold red]Error:[/bold red] ".toList =
      Markup.styled "bold red".toList "Error:".toList ++ [' '] := by
    simp [Markup.styled]
  rw [shown, shown, hline, String.toList_append, hstyled, List.append_assoc,
    Markup.plain_styled_append Markup.isStyle_bold_red (by simp) (by simp),
    Markup.plain_append (by simp) (by simp)]
  cases Markup.plain host.takes (t.message host).toList with
  | error e => rfl
  | ok cs => rfl

theorem Trouble.shows_line_iff {t : Trouble} :
    Shows host (t.line host) ↔ Shows host (t.message host) := by
  simp only [Shows, t.shown_line, map_eq_ok_iff]
  constructor
  · rintro ⟨_, cs, hcs, -⟩
    exact ⟨cs, hcs⟩
  · rintro ⟨cs, hcs⟩
    exact ⟨_, cs, hcs, rfl⟩

/-- The style of a verdict. -/
def verdictStyle (s : WindowSet) (i : Instant) : List Char :=
  if s.contains i then "green".toList else "yellow".toList

/-- What a verdict tells before the label. -/
def verdictFront (s : WindowSet) (i : Instant) : List Char :=
  (if s.contains i then '✓' else '✗') :: ' ' :: i.weekday.name.toList ++ ' ' :: i.dateTimeText ++
    if s.contains i then " is within ".toList else " is outside ".toList

theorem toList_verdictText (s : WindowSet) (label : String) (i : Instant) :
    (verdictText s label i).toList =
      Markup.styled (verdictStyle s i) (verdictFront s i ++ label.toList) := by
  unfold verdictText verdictStyle verdictFront
  by_cases hcontains : s.contains i = true
  · simp [hcontains, Markup.styled]
  · simp [hcontains, Markup.styled]

theorem isStyle_verdictStyle (s : WindowSet) (i : Instant) :
    Markup.IsStyle host.takes (verdictStyle s i) := by
  rw [verdictStyle]
  split
  · exact Markup.isStyle_green
  · exact Markup.isStyle_yellow

theorem closesItself_verdictStyle (s : WindowSet) (i : Instant) :
    Markup.ClosesItself host.takes (verdictStyle s i) := by
  rw [verdictStyle]
  split
  · exact Markup.closesItself_green
  · exact Markup.closesItself_yellow

theorem bracket_not_mem_verdictFront (s : WindowSet) (i : Instant) : '[' ∉ verdictFront s i := by
  have hday : '[' ∉ i.weekday.name.toList := by
    simpa [Weekday.name] using i.weekday.areInk_capitalName.not_mem_bracket
  rw [verdictFront]
  split <;> simp [hday, i.bracket_not_mem_dateTimeText]

theorem getLast_verdictFront (s : WindowSet) (i : Instant) :
    (verdictFront s i).getLast? ≠ some '\\' := by
  rw [verdictFront, List.getLast?_append]
  split <;> simp

theorem shows_verdictText_of_shows {label : String} (s : WindowSet) (i : Instant)
    (h : Shows host label) : Shows host (verdictText s label i) := by
  refine shows_of_styled _ (isStyle_verdictStyle s i) (closesItself_verdictStyle s i)
    (toList_verdictText s label i) ?_
  obtain ⟨out, hout⟩ := shows_iff_exists_plain.mp h
  rw [Markup.plain_append (bracket_not_mem_verdictFront s i) (getLast_verdictFront s i), hout]
  exact ⟨_, rfl⟩

theorem shows_verdictText {label : String} (s : WindowSet) (i : Instant) (h : '[' ∉ label.toList) :
    Shows host (verdictText s label i) :=
  shows_verdictText_of_shows s i (shows_of_not_mem h)

/-- A verdict can be shown exactly when the tags of its label, and the one behind it, can be gone
through with the style of the verdict open. -/
theorem shows_verdictText_iff {label : String} (s : WindowSet) (i : Instant) :
    Shows host (verdictText s label i) ↔ ∃ opened,
      (Markup.tagsIn label.toList ++
        Markup.tagsBehind label.toList ('/' :: verdictStyle s i)).foldlM (Markup.step host.takes)
          [⟨verdictStyle s i, none⟩] = .ok opened := by
  have hbracket := bracket_not_mem_verdictFront s i
  have hslash := getLast_verdictFront s i
  rw [shows_iff_exists_plain, toList_verdictText,
    Markup.exists_plain_styled_iff (isStyle_verdictStyle s i),
    (Markup.pieces_append hbracket hslash label.toList).1, Markup.tagsBehind,
    Markup.slashesAtEnd_append fun h => absurd h hslash, ← Markup.tagsBehind]

end Command

end Timetable
