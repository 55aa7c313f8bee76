import Timetable.Proofs.Command.Agreement
import Timetable.Proofs.Command.Exit
import Timetable.Proofs.Markup.Literal

/-!
What is shown of the texts of a user. They all pass through markup. Main statement: which of them
are shown as they are, which can be shown at all, and what the commands show of them.
-/
namespace Timetable

namespace Command

variable {host : Host} {f : Folder} {now : Instant} {config : Option String} {text : String}
  {texts : List String}

/-! ### Texts -/

theorem shown_eq_self_iff : shown host text = .ok text.toList ↔ Markup.IsLiteral text.toList := by
  rw [shown, mapError_eq_ok_iff, Markup.plain_eq_self_iff]

/-- The message about an unreadable text puts it in brackets, which make a tag of it. -/
theorem shown_unreadable (h : Markup.IsInside text.toList) :
    shown host (StampError.unreadable text).message =
      ((Markup.step host.takes [] (Markup.tagOf text.toList)).mapError .markup).map fun _ =>
        "Unable to parse string ".toList := by
  have hmessage : (StampError.unreadable text).message =
      "Unable to parse string [" ++ text ++ "]" := rfl
  have hopening : "Unable to parse string [".toList = "Unable to parse string ".toList ++ ['['] := by
    simp
  have hclosing : "]".toList = ']' :: [] := by simp
  rw [shown, hmessage, String.toList_append, String.toList_append, hopening, hclosing,
    List.append_assoc, List.append_assoc, Markup.plain_append (by simp) (by simp),
    List.singleton_append, ← List.cons_append, Markup.plain, Markup.pieces_tag h, Markup.plainFrom]
  cases Markup.step host.takes [] (Markup.tagOf text.toList) with
  | error e => rfl
  | ok opened => rfl

/-! ### Errors -/

/-- The report of an error of which some characters are shown. -/
def errorReport (cs : List Char) : Report :=
  ⟨exitError, (Page.wrap .fold pageWidth ("Error: ".toList ++ cs)).map String.ofList⟩

theorem troubleReport_eq (t : Trouble) :
    troubleReport host t = (shown host (t.message host)).map errorReport := by
  rw [troubleReport, printed, t.shown_line]
  cases shown host (t.message host) <;> rfl

/-- A check is kept from its answer by the text of its instant, in a way that is foreseen. -/
structure RejectsInstant (f : Folder) (now : Instant) (selection : Selection) (config : Option String)
    (text : String) (e : StampError) : Prop where
  given : text ≠ ""
  read : ∃ c s, loadConfig f config = .ok c ∧ resolve c selection = .ok s ∧
    Instant.read text c.timezone now = .error e
  foreseen : isForeseenInStamp e = true

theorem check_of_rejectsInstant {selection : Selection} {e : StampError}
    (h : RejectsInstant f now selection config text e) :
    run host f now (.check selection (some text) config) =
      (shown host e.message).map errorReport := by
  obtain ⟨c, s, hload, hresolve, hread⟩ := h.read
  have hinstant : instantOf c now (some text) = .error (.stamp e) := by
    rw [instantOf_text h.given, hread]
    rfl
  have hinput := checkInput_of_instantOf hload hresolve hinstant
  have hforeseen : (Trouble.stamp e).isForeseen = true := h.foreseen
  rw [run, runCheck, hinput, orReport, if_pos hforeseen]
  exact troubleReport_eq (.stamp e)

/-! ### Tables -/

/-- The first cell of a row is a text, and the others can be shown. -/
def IsRowOf (host : Host) (text : String) (row : List String) : Prop :=
  ∃ others, row = text :: others ∧ ∀ other ∈ others, Shows host other

/-- Each row begins with what is shown of a text. -/
def BeginWith (host : Host) (texts : List String) (rows : List (List (List Char))) : Prop :=
  List.Forall₂ (fun text row => ∃ cs, shown host text = .ok cs ∧ row.head? = some cs) texts rows

theorem shownRows_eq_ok_iff {rows : List (List String)} {cells : List (List (List Char))} :
    shownRows host rows = .ok cells ↔
      List.Forall₂ (fun row cs => row.mapM (shown host) = .ok cs) rows cells := by
  induction rows generalizing cells with
  | nil => simp [shownRows, eq_comm]
  | cons row rows ih =>
      rw [shownRows, List.forall₂_cons_left_iff, bind_eq_ok_iff]
      simp only [bind_eq_ok_iff, ih]
      constructor
      · rintro ⟨cs, hcs, rest, hrest, hpure⟩
        exact ⟨cs, rest, hcs, hrest, (Except.ok.inj hpure).symm⟩
      · rintro ⟨cs, rest, hcs, hrest, rfl⟩
        exact ⟨cs, hcs, rest, hrest, rfl⟩

theorem head_of_mapM_shown {row : List String} {cells : List (List Char)}
    (hrow : IsRowOf host text row) (h : row.mapM (shown host) = .ok cells) :
    ∃ cs, shown host text = .ok cs ∧ cells.head? = some cs := by
  obtain ⟨others, rfl, -⟩ := hrow
  obtain ⟨cs, rest, hcs, -, rfl⟩ := List.forall₂_cons_left_iff.mp (mapM_eq_ok_iff.mp h)
  exact ⟨cs, hcs, rfl⟩

theorem exists_mapM_shown {row : List String} (hrow : IsRowOf host text row) (h : Shows host text) :
    ∃ cells, row.mapM (shown host) = .ok cells := by
  obtain ⟨others, rfl, hothers⟩ := hrow
  have hall : ∀ cell ∈ text :: others, Shows host cell := List.forall_mem_cons.mpr ⟨h, hothers⟩
  obtain ⟨cells, hcells⟩ := exists_forall₂_of_forall hall
  exact ⟨cells, mapM_eq_ok_iff.mpr hcells⟩

theorem beginWith_of_shownRows {rows : List (List String)} {cells : List (List (List Char))}
    (hrows : List.Forall₂ (IsRowOf host) texts rows) (h : shownRows host rows = .ok cells) :
    BeginWith host texts cells := by
  refine (forall₂_comp hrows (shownRows_eq_ok_iff.mp h)).imp ?_
  rintro text cs ⟨row, hrow, hcs⟩
  exact head_of_mapM_shown hrow hcs

/-- A table can be shown exactly when the text of each row can. -/
theorem exists_shownRows_iff {rows : List (List String)}
    (hrows : List.Forall₂ (IsRowOf host) texts rows) :
    (∃ cells, shownRows host rows = .ok cells) ↔ ∀ text ∈ texts, Shows host text := by
  constructor
  · rintro ⟨cells, hcells⟩ text htext
    obtain ⟨_, -, cs, hcs, -⟩ := exists_mem_of_forall₂ (beginWith_of_shownRows hrows hcells) htext
    exact ⟨cs, hcs⟩
  · intro h
    have hcells : ∀ row ∈ rows, ∃ cs, row.mapM (shown host) = .ok cs := by
      intro row hmem
      obtain ⟨text, htext, hrow⟩ := exists_mem_of_forall₂ hrows.flip hmem
      exact exists_mapM_shown hrow (h text htext)
    obtain ⟨cells, hcells⟩ := exists_forall₂_of_forall hcells
    exact ⟨cells, shownRows_eq_ok_iff.mpr hcells⟩

/-! ### Expressions -/

/-- The lines of a table of expressions with the given rows. -/
def expressionLines (rows : List (List (List Char))) : List String :=
  let table : Page.Table := ⟨"Parsed ranges".toList,
    ["Expression", "Weekday", "Start", "End", "Canonical"].map String.toList, rows⟩
  [""] ++ table.lines.map String.ofList ++ [""]

theorem shows_clockText (t : TimeOfDay) : Shows host (String.ofList t.clockText) :=
  shows_of_not_mem (by simpa using t.areInk_clockText.not_mem_bracket)

theorem shows_weekdayName (d : Weekday) : Shows host d.name :=
  shows_of_not_mem (by simpa [Weekday.name] using d.areInk_capitalName.not_mem_bracket)

theorem isRowOf_expressionRow {reading : Expression.Reading} {row : List String}
    (h : expressionRow text reading = .ok row) : IsRowOf host text row := by
  cases reading with
  | faulty e => cases h
  | rejected r =>
      cases h
      refine ⟨_, rfl, ?_⟩
      have hmark : Shows host "[red]invalid[/red]" := ⟨"invalid".toList, rfl⟩
      have hempty : Shows host "" := ⟨[], rfl⟩
      simp [hmark, hempty]
  | accepted w =>
      cases h
      have hday : Shows host ((w.weekday.map Weekday.name).getD "any") := by
        cases w.weekday with
        | none => exact shows_of_not_mem (by simp)
        | some d => exact shows_weekdayName d
      have hrender : Shows host w.render :=
        shows_of_not_mem (by simpa [Window.render] using w.bracket_not_mem_text)
      refine ⟨_, rfl, ?_⟩
      simp only [List.forall_mem_cons, List.not_mem_nil, false_implies, implies_true, and_true]
      refine ⟨hday, ?_, ?_, hrender⟩
      all_goals
        cases w.span with
        | none => exact shows_of_not_mem (by simp)
        | some s => exact shows_clockText _

theorem exists_expressionRow_iff {reading : Expression.Reading} :
    (∃ row, expressionRow text reading = .ok row) ↔ ∀ e, reading ≠ .faulty e := by
  cases reading with
  | faulty e => simp [expressionRow]
  | rejected r => simp [expressionRow]
  | accepted w => simp [expressionRow]

theorem forall₂_isRowOf {rows : List (List String)}
    (h : texts.mapM (fun t => expressionRow t (Expression.read t)) = .ok rows) :
    List.Forall₂ (IsRowOf host) texts rows :=
  (mapM_eq_ok_iff.mp h).imp fun _ _ => isRowOf_expressionRow

theorem shows_countLine (n : Nat) :
    Shows host ("[bold red]✗ " ++ String.ofList (Text.decimal n) ++
      " invalid expression(s)[/bold red]") := by
  have hcount := (Text.areInk_decimal n).not_mem_bracket
  refine shows_of_styled ("✗ ".toList ++ Text.decimal n ++ " invalid expression(s)".toList)
    Markup.isStyle_bold_red Markup.closesItself_bold_red ?_ ⟨_, Markup.plain_of_not_mem ?_⟩
  · simp [Markup.styled]
  · simp [hcount]

/-- A table of expressions, and what is told of those that are rejected. -/
theorem runParse_of_shownRows {rows : List (List String)} {cells : List (List (List Char))}
    (hrows : texts.mapM (fun t => expressionRow t (Expression.read t)) = .ok rows)
    (hcells : shownRows host rows = .ok cells) :
    ∃ exit tail, runParse host texts = .ok ⟨exit, expressionLines cells ++ tail⟩ := by
  have htable : printedTable host "Parsed ranges" ["Expression", "Weekday", "Start", "End", "Canonical"]
      rows = .ok (expressionLines cells) := by
    rw [printedTable, hcells]
    rfl
  rw [runParse, hrows]
  simp only [bind, Except.bind, htable]
  split
  · exact ⟨exitWithin, [], by rw [List.append_nil]; rfl⟩
  · obtain ⟨lines, hlines⟩ := exists_printed_iff.mpr (shows_countLine (countRejected texts))
    exact ⟨exitOutside, lines, by rw [hlines]; rfl⟩

theorem exists_shownRows_of_runParse {report : Report} (h : runParse host texts = .ok report) :
    ∃ rows cells, texts.mapM (fun t => expressionRow t (Expression.read t)) = .ok rows ∧
      shownRows host rows = .ok cells := by
  obtain ⟨rows, hrows, h⟩ := bind_eq_ok_iff.mp h
  obtain ⟨table, htable, -⟩ := bind_eq_ok_iff.mp h
  obtain ⟨cells, hcells, -⟩ := bind_eq_ok_iff.mp htable
  exact ⟨rows, cells, hrows, hcells⟩

/-- A table of expressions is printed exactly when each of them can be shown and leads to no fault.
-/
theorem exists_runParse_iff :
    (∃ report, runParse host texts = .ok report) ↔
      ∀ text ∈ texts, Shows host text ∧ ∀ e, Expression.read text ≠ .faulty e := by
  constructor
  · rintro ⟨report, hreport⟩ text htext
    obtain ⟨rows, cells, hrows, hcells⟩ := exists_shownRows_of_runParse hreport
    obtain ⟨row, -, hrow⟩ := exists_mem_of_forall₂ (mapM_eq_ok_iff.mp hrows) htext
    exact ⟨(exists_shownRows_iff (forall₂_isRowOf hrows)).mp ⟨cells, hcells⟩ text htext,
      exists_expressionRow_iff.mp ⟨row, hrow⟩⟩
  · intro h
    have hrows : ∀ text ∈ texts, ∃ row, expressionRow text (Expression.read text) = .ok row :=
      fun text htext => exists_expressionRow_iff.mpr (h text htext).2
    obtain ⟨rows, hforall⟩ := exists_forall₂_of_forall hrows
    have hmapM := mapM_eq_ok_iff.mpr hforall
    obtain ⟨cells, hcells⟩ :=
      (exists_shownRows_iff (forall₂_isRowOf hmapM)).mpr fun text htext => (h text htext).1
    obtain ⟨exit, tail, hreport⟩ := runParse_of_shownRows hmapM hcells
    exact ⟨_, hreport⟩

/-- The first cells of a table of expressions show the expressions. -/
theorem beginWith_of_runParse {report : Report} (h : runParse host texts = .ok report) :
    ∃ cells, BeginWith host texts cells ∧ expressionLines cells <+: report.lines := by
  obtain ⟨rows, cells, hrows, hcells⟩ := exists_shownRows_of_runParse h
  obtain ⟨exit, tail, hreport⟩ := runParse_of_shownRows hrows hcells
  obtain rfl := Except.ok.inj (h.symm.trans hreport)
  exact ⟨cells, beginWith_of_shownRows (forall₂_isRowOf hrows) hcells, tail, rfl⟩

/-! ### Names of schedules -/

theorem isRowOf_scheduleRow (active : List String) (s : String × WindowSet) :
    IsRowOf host s.1 (scheduleRow active s) := by
  refine ⟨_, rfl, ?_⟩
  have hyes : Shows host "[green]yes[/green]" := ⟨"yes".toList, rfl⟩
  have hno : Shows host "no" := ⟨"no".toList, rfl⟩
  have hmark : Shows host (if active.contains s.1 then "[green]yes[/green]" else "no") := by
    split
    · exact hyes
    · exact hno
  simp only [List.forall_mem_cons, List.not_mem_nil, false_implies, implies_true, and_true]
  exact ⟨shows_of_not_mem s.2.bracket_not_mem_render, hmark⟩

theorem forall₂_isRowOf_schedules (host : Host) (k : Checker) (active : List String) :
    List.Forall₂ (IsRowOf host) (k.schedules.map (·.1)) (k.schedules.map (scheduleRow active)) := by
  rw [List.forall₂_map_left_iff, List.forall₂_map_right_iff, List.forall₂_same]
  exact fun s _ => isRowOf_scheduleRow active s

theorem scheduleTable_eq_ok_iff {k : Checker} {i : Instant} {lines : List String} :
    scheduleTable host k i = .ok lines ↔ ∃ cells,
      shownRows host (k.schedules.map (scheduleRow (k.activeAt i))) = .ok cells ∧
        overviewLines i cells = lines := by
  rw [scheduleTable, printedTable, bind_eq_ok_iff]
  constructor
  · rintro ⟨cells, hcells, hlines⟩
    exact ⟨cells, hcells, Except.ok.inj hlines⟩
  · rintro ⟨cells, hcells, rfl⟩
    exact ⟨cells, hcells, rfl⟩

theorem overview_eq_ok_iff {k : Checker} {i : Instant} {report : Report} (hne : k.schedules ≠ []) :
    overview host k i = .ok report ↔ ∃ cells,
      shownRows host (k.schedules.map (scheduleRow (k.activeAt i))) = .ok cells ∧
        ⟨exitWithin, overviewLines i cells⟩ = report := by
  have hnot : k.schedules.isEmpty = false := by simpa using hne
  have hoverview : overview host k i = (scheduleTable host k i).map (⟨exitWithin, ·⟩) := by
    rw [overview, hnot]
    rfl
  rw [hoverview, map_eq_ok_iff]
  simp only [scheduleTable_eq_ok_iff]
  constructor
  · rintro ⟨_, ⟨cells, hcells, rfl⟩, rfl⟩
    exact ⟨cells, hcells, rfl⟩
  · rintro ⟨cells, hcells, rfl⟩
    exact ⟨_, ⟨cells, hcells, rfl⟩, rfl⟩

/-- An overview is printed exactly when the name of each schedule can be shown. -/
theorem exists_overview_iff {k : Checker} {i : Instant} (hne : k.schedules ≠ []) :
    (∃ report, overview host k i = .ok report) ↔ ∀ s ∈ k.schedules, Shows host s.1 := by
  have hrows := exists_shownRows_iff (forall₂_isRowOf_schedules host k (k.activeAt i))
  rw [List.forall_mem_map] at hrows
  rw [← hrows]
  simp only [overview_eq_ok_iff hne]
  constructor
  · rintro ⟨_, cells, hcells, -⟩
    exact ⟨cells, hcells⟩
  · rintro ⟨cells, hcells⟩
    exact ⟨_, cells, hcells, rfl⟩

theorem beginWith_of_overview {k : Checker} {i : Instant} {report : Report} (hne : k.schedules ≠ [])
    (h : overview host k i = .ok report) :
    ∃ cells, BeginWith host (k.schedules.map (·.1)) cells ∧
      report = ⟨exitWithin, overviewLines i cells⟩ := by
  obtain ⟨cells, hcells, rfl⟩ := (overview_eq_ok_iff hne).mp h
  exact ⟨cells, beginWith_of_shownRows (forall₂_isRowOf_schedules host k _) hcells, rfl⟩

/-! ### Labels -/

/-- What a check tells its windows by: the name of the schedule, or else the windows. -/
def labelOf (selection : Selection) (s : WindowSet) : String :=
  (nonempty selection.schedule).getD s.render

theorem exists_check_iff {selection : Selection} {instant : Option String} {s : WindowSet}
    {i : Instant} (h : checkInput f now selection instant config = .ok (s, i)) :
    (∃ report, run host f now (.check selection instant config) = .ok report) ↔
      Shows host (verdictText s (labelOf selection s) i) := by
  rw [run_check_of_input h, ← labelOf, ← exists_printed_iff]
  simp only [verdict, bind_eq_ok_iff]
  constructor
  · rintro ⟨_, lines, hlines, -⟩
    exact ⟨lines, hlines⟩
  · rintro ⟨lines, hlines⟩
    exact ⟨_, lines, hlines, rfl⟩

/-! ### All of them -/

/-- What is shown of the texts of a user. -/
structure ShowsAsMarkup (host : Host) (f : Folder) (now : Instant) : Prop where
  /-- A text is shown as it is exactly when nothing in it is markup. -/
  literal : ∀ text, shown host text = .ok text.toList ↔ Markup.IsLiteral text.toList
  /-- A text can be shown exactly when its tags can be gone through. -/
  shows : ∀ text, Shows host text ↔
    ∃ opened, (Markup.tagsIn text.toList).foldlM (Markup.step host.takes) [] = .ok opened
  /-- This is so exactly when they close no name more often than they open it. -/
  balanced : ∀ text moves,
    List.Forall₂ (Markup.Tag.Makes host.takes) (Markup.tagsIn text.toList) moves →
      (Shows host text ↔ Markup.IsBalanced [] moves)
  /-- A check at a text that is rejected ends in what is shown of the message. -/
  rejected : ∀ selection config text e, RejectsInstant f now selection config text e →
    run host f now (.check selection (some text) config) = (shown host e.message).map errorReport
  /-- The brackets that a message puts around a text may make a tag of it. -/
  unreadable : ∀ text, Markup.IsInside text.toList →
    shown host (StampError.unreadable text).message =
      ((Markup.step host.takes [] (Markup.tagOf text.toList)).mapError .markup).map fun _ =>
        "Unable to parse string ".toList
  /-- An error can be shown exactly when its message can. -/
  error : ∀ t : Trouble, Shows host (t.line host) ↔ Shows host (t.message host)
  /-- A table of expressions is printed if each can be shown, and shows them in front of its rows.
  -/
  expressions : ∀ texts,
    ((∃ report, run host f now (.parse texts) = .ok report) ↔
      ∀ text ∈ texts, Shows host text ∧ ∀ e, Expression.read text ≠ .faulty e) ∧
    ∀ report, run host f now (.parse texts) = .ok report →
      ∃ cells, BeginWith host texts cells ∧ expressionLines cells <+: report.lines
  /-- An overview is printed if the name of each schedule can be shown, and shows them in front of
  its rows. -/
  names : ∀ instant config k i, schedulesInput f now instant config = .ok (k, i) → k.schedules ≠ [] →
    ((∃ report, run host f now (.schedules instant config) = .ok report) ↔
      ∀ s ∈ k.schedules, Shows host s.1) ∧
    ∀ report, run host f now (.schedules instant config) = .ok report →
      ∃ cells, BeginWith host (k.schedules.map (·.1)) cells ∧
        report = ⟨exitWithin, overviewLines i cells⟩
  /-- A verdict is printed exactly when the tags of its label, and the one behind it, can be gone
  through with the style of the verdict open. -/
  label : ∀ selection instant config s i, checkInput f now selection instant config = .ok (s, i) →
    ((∃ report, run host f now (.check selection instant config) = .ok report) ↔
      ∃ opened, (Markup.tagsIn (labelOf selection s).toList ++
        Markup.tagsBehind (labelOf selection s).toList ('/' :: verdictStyle s i)).foldlM
          (Markup.step host.takes) [⟨verdictStyle s i, none⟩] = .ok opened)

/-- The texts of a user are shown as markup, be they the text of an instant, expressions, names of
schedules or labels. What is markup in them is not shown, and if it turns off what is not turned on,
nothing is. -/
theorem user_text_shown_as_markup (host : Host) (f : Folder) (now : Instant) :
    ShowsAsMarkup host f now where
  literal _ := shown_eq_self_iff
  shows _ := shows_iff
  balanced _ _ hmoves := shows_iff_exists_plain.trans (Markup.exists_plain_iff_isBalanced hmoves)
  rejected _ _ _ _ h := check_of_rejectsInstant h
  unreadable _ h := shown_unreadable h
  error _ := Trouble.shows_line_iff
  expressions _ := ⟨exists_runParse_iff, fun _ h => beginWith_of_runParse h⟩
  names _ _ _ _ hinput hne := by
    rw [run_schedules_of_input hinput]
    exact ⟨exists_overview_iff hne, fun _ h => beginWith_of_overview hne h⟩
  label _ _ _ s i hinput := (exists_check_iff hinput).trans (shows_verdictText_iff s i)

theorem rejectsInstant_notADate :
    RejectsInstant emptyFolder newYear ⟨["Mon"], none⟩ none "not a date"
      (.unreadable "not a date") where
  given := by decide
  read := ⟨.default, _, rfl, rfl, rfl⟩
  foreseen := rfl

/-- The text of an instant that is no date is a tag in the message, so that it is not shown. -/
theorem check_shows_no_date :
    run plainHost emptyFolder newYear (.check ⟨["Mon"], none⟩ (some "not a date") none) =
      .ok (errorReport "Unable to parse string ".toList) := by
  have hshows := user_text_shown_as_markup plainHost emptyFolder newYear
  rw [hshows.rejected _ _ _ _ rejectsInstant_notADate, hshows.unreadable _ (by decide)]
  rfl

/-- There are texts that cannot be shown, texts that are not shown as they are, and texts of
instants that are lost from the error about them. -/
theorem exists_user_text_lost :
    (¬∀ text, Shows plainHost text) ∧
      (¬∀ text, Shows plainHost text → shown plainHost text = .ok text.toList) ∧
      ¬∀ f now selection config text e, RejectsInstant f now selection config text e →
        run plainHost f now (.check selection (some text) config) =
          .ok (errorReport e.message.toList) := by
  refine ⟨fun h => ?_, fun h => ?_, fun h => ?_⟩
  · obtain ⟨cs, hcs⟩ := h "[/red]"
    have hnone : (shown plainHost "[/red]").toOption = none := by decide +kernel
    rw [hcs] at hnone
    cases hnone
  · have hempty : shown plainHost "[red]" = .ok [] := eq_ok_of_toOption (by decide +kernel)
    have hsame := h "[red]" ⟨[], hempty⟩
    rw [hempty] at hsame
    exact absurd (Except.ok.inj hsame) (by decide)
  · have hrun := h _ _ _ _ _ _ rejectsInstant_notADate
    have hother :
        (run plainHost emptyFolder newYear (.check ⟨["Mon"], none⟩ (some "not a date") none)).toOption ≠
          some (errorReport (StampError.unreadable "not a date").message.toList) := by
      decide +kernel
    rw [hrun] at hother
    exact hother rfl

end Command

end Timetable
