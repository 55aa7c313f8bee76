import Timetable.Proofs.Checker.Selection
import Timetable.Proofs.Command.Loading
import Timetable.Proofs.Command.Wording

/-!
The commands about one schedule. Main statement: `check` for each of some texts, `filter` for all of
them and `schedules` give one verdict on a schedule, whose name may be spelled in any letter case.
-/
namespace Timetable

namespace Command

/-! ### One schedule -/

section Schedule

variable {host : Host} {f : Folder} {now : Instant} {config : Option String} {c : Config}
  {name text : String}
  {s : WindowSet} {i : Instant}

/-- The long form of the instant that a text stands for. -/
def isoText? (c : Config) (now : Instant) (text : String) : Option String :=
  (Instant.read text c.timezone now).toOption.map fun i => String.ofList i.isoText

def checkAt (host : Host) (f : Folder) (now : Instant) (config : Option String) (name text : String) :
    Except Trouble Report :=
  run host f now (.check ⟨[], some name⟩ (some text) config)

def filterOf (host : Host) (f : Folder) (now : Instant) (config : Option String) (name : String)
    (texts : List String) : Except Trouble Report :=
  run host f now (.filter ⟨[], some name⟩ texts config)

theorem resolve_name (hne : name ≠ "") (hschedule : c.schedule name = .ok s) :
    resolve c ⟨[], some name⟩ = .ok s := by
  rw [resolve, nonempty_some hne]
  exact mapError_eq_ok_iff.mpr hschedule

theorem instantOf_of_read (hne : text ≠ "") (hread : Instant.read text c.timezone now = .ok i) :
    instantOf c now (some text) = .ok i := by
  rw [instantOf_text hne]
  exact mapError_eq_ok_iff.mpr hread

theorem checkAt_eq (hload : loadConfig f config = .ok c) (hname : name ≠ "")
    (hbracket : '[' ∉ name.toList) (hschedule : c.schedule name = .ok s) (htext : text ≠ "")
    (hread : Instant.read text c.timezone now = .ok i) :
    ∃ lines, checkAt host f now config name text =
      .ok ⟨if s.contains i then exitWithin else exitOutside, lines⟩ := by
  have hinput : checkInput f now ⟨[], some name⟩ (some text) config = .ok (s, i) :=
    checkInput_eq_ok_iff.mpr ⟨c, hload, resolve_name hname hschedule, instantOf_of_read htext hread⟩
  obtain ⟨lines, hlines⟩ : ∃ lines, printed host (verdictText s name i) = .ok lines :=
    exists_printed_iff.mpr (shows_verdictText s i hbracket)
  refine ⟨lines, ?_⟩
  rw [checkAt, run_check_of_input hinput, nonempty_some hname]
  simp only [Option.getD_some, verdict, hlines]
  rfl

theorem filterOf_eq (hload : loadConfig f config = .ok c) (hname : name ≠ "")
    (hschedule : c.schedule name = .ok s) {texts : List String} {is : List Instant}
    (hread : List.Forall₂ (fun text i => Instant.read text c.timezone now = .ok i) texts is)
    (hiso : HaveIsoTexts s is) :
    filterOf host f now config name texts =
      .ok ⟨if (s.select is).isEmpty then exitOutside else exitWithin,
        (s.select is).map fun i => String.ofList i.isoText⟩ := by
  have hinput : filterInput f now ⟨[], some name⟩ texts config = .ok (s, is) :=
    filterInput_eq_ok_iff.mpr
      ⟨c, hload, resolve_name hname hschedule, instantsOf_eq_ok_iff.mpr hread⟩
  exact (run_filter_of_input hinput).trans (matching_of_haveIsoTexts hiso)

/-- A row of texts of which one is rejected ends in the report of that one. -/
theorem filterOf_of_rejected (hload : loadConfig f config = .ok c) (hname : name ≠ "")
    (hschedule : c.schedule name = .ok s) {texts : List String}
    (h : ∃ text ∈ texts, ∃ e, Instant.read text c.timezone now = .error e) :
    ∃ text ∈ texts, ∃ e, Instant.read text c.timezone now = .error e ∧
      filterOf host f now config name texts =
        if (Trouble.stamp e).isForeseen then troubleReport host (.stamp e)
        else .error (.stamp e) := by
  cases hinstants : instantsOf c now texts with
  | ok is =>
      obtain ⟨text, htext, e, he⟩ := h
      obtain ⟨i, -, hi⟩ := exists_mem_of_forall₂ (instantsOf_eq_ok_iff.mp hinstants) htext
      rw [he] at hi
      cases hi
  | error t =>
      obtain ⟨text, htext, e, he, rfl⟩ := exists_stamp_of_instantsOf hinstants
      refine ⟨text, htext, e, he, ?_⟩
      have hinput := filterInput_of_instantsOf hload (resolve_name hname hschedule) hinstants
      rw [filterOf, run, runFilter, hinput, orReport]

/-- The texts at which a check exits with the number for an instant that is within. -/
def textsWithin (host : Host) (f : Folder) (now : Instant) (config : Option String) (name : String)
    (texts : List String) : List String :=
  texts.filter fun text => exitNumber (checkAt host f now config name text) = exitWithin

theorem exitNumber_checkAt_eq_within_iff (hload : loadConfig f config = .ok c) (hname : name ≠ "")
    (hbracket : '[' ∉ name.toList) (hschedule : c.schedule name = .ok s) (htext : text ≠ "")
    (hread : Instant.read text c.timezone now = .ok i) :
    exitNumber (checkAt host f now config name text) = exitWithin ↔ s.contains i = true := by
  obtain ⟨lines, hlines⟩ := checkAt_eq hload hname hbracket hschedule htext hread
  rw [hlines, exitNumber]
  cases s.contains i <;> simp [exitWithin, exitOutside]

theorem forall₂_textsWithin (hload : loadConfig f config = .ok c) (hname : name ≠ "")
    (hbracket : '[' ∉ name.toList) (hschedule : c.schedule name = .ok s) {texts : List String}
    (htexts : ∀ text ∈ texts, text ≠ "") {is : List Instant}
    (hread : List.Forall₂ (fun text i => Instant.read text c.timezone now = .ok i) texts is) :
    List.Forall₂ (fun text i => Instant.read text c.timezone now = .ok i)
      (textsWithin host f now config name texts) (s.select is) := by
  induction hread with
  | nil => exact .nil
  | @cons text i _ _ hi _ ih =>
      rw [List.forall_mem_cons] at htexts
      have hsame : decide (exitNumber (checkAt host f now config name text) = exitWithin) =
          s.contains i := by
        rw [Bool.eq_iff_iff, decide_eq_true_iff,
          exitNumber_checkAt_eq_within_iff hload hname hbracket hschedule htexts.1 hi]
      rw [textsWithin, WindowSet.select, List.filter_cons, List.filter_cons, hsame]
      split
      · exact .cons hi (ih htexts.2)
      · exact ih htexts.2

theorem filterMap_isoText? {texts : List String} {is : List Instant}
    (h : List.Forall₂ (fun text i => Instant.read text c.timezone now = .ok i) texts is) :
    texts.filterMap (isoText? c now) = is.map fun i => String.ofList i.isoText := by
  induction h with
  | nil => rfl
  | cons hi _ ih =>
      rw [List.filterMap_cons, isoText?, hi, List.map_cons, ← ih]
      rfl

/-- `filter` prints the instants of the texts at which `check` is within. -/
theorem filterOf_eq_textsWithin (hload : loadConfig f config = .ok c) (hname : name ≠ "")
    (hbracket : '[' ∉ name.toList) (hschedule : c.schedule name = .ok s) {texts : List String}
    (htexts : ∀ text ∈ texts, text ≠ "") {is : List Instant}
    (hread : List.Forall₂ (fun text i => Instant.read text c.timezone now = .ok i) texts is)
    (hiso : HaveIsoTexts s is) :
    filterOf host f now config name texts =
      .ok ⟨if (textsWithin host f now config name texts).isEmpty then exitOutside else exitWithin,
        (textsWithin host f now config name texts).filterMap (isoText? c now)⟩ := by
  have hwithin : List.Forall₂ _ (textsWithin host f now config name texts) _ :=
    forall₂_textsWithin hload hname hbracket hschedule htexts hread
  have hempty : (textsWithin host f now config name texts).isEmpty = (s.select is).isEmpty := by
    rw [Bool.eq_iff_iff, List.isEmpty_iff_length_eq_zero, List.isEmpty_iff_length_eq_zero,
      hwithin.length_eq]
  rw [filterOf_eq hload hname hschedule hread hiso, filterMap_isoText? hwithin, hempty]

end Schedule

/-! ### All schedules -/

section Rows

variable {host : Host}

/-- The lines of an overview with the given rows. -/
def overviewLines (i : Instant) (rows : List (List (List Char))) : List String :=
  [""] ++ (Page.Table.lines ⟨("Schedules at " ++ String.ofList i.dateTimeText).toList,
    ["Name", "Ranges", "Active"].map String.toList, rows⟩).map String.ofList ++ [""]

/-- A row of an overview as it is shown. -/
def shownRow (active : List String) (s : String × WindowSet) : List (List Char) :=
  [Markup.shownChars s.1.toList, Markup.shownChars s.2.render.toList,
    if active.contains s.1 then "yes".toList else "no".toList]

theorem mapM_shown_scheduleRow {active : List String} {s : String × WindowSet}
    (h : '[' ∉ s.1.toList) : (scheduleRow active s).mapM (shown host) = .ok (shownRow active s) := by
  have hmark : shown host (if active.contains s.1 then "[green]yes[/green]" else "no") =
      .ok (if active.contains s.1 then "yes".toList else "no".toList) := by
    split <;> rfl
  rw [scheduleRow, shownRow, List.mapM_cons, shown_of_not_mem h, List.mapM_cons,
    shown_of_not_mem s.2.bracket_not_mem_render, List.mapM_cons, hmark]
  rfl

theorem shownRows_eq {active : List String} {sets : List (String × WindowSet)}
    (h : ∀ s ∈ sets, '[' ∉ s.1.toList) :
    shownRows host (sets.map (scheduleRow active)) = .ok (sets.map (shownRow active)) := by
  induction sets with
  | nil => rfl
  | cons s sets ih =>
      rw [List.forall_mem_cons] at h
      rw [List.map_cons, shownRows, mapM_shown_scheduleRow h.1, ih h.2]
      rfl

theorem overview_eq {k : Checker} (hne : k.schedules ≠ []) (h : ∀ s ∈ k.schedules, '[' ∉ s.1.toList)
    (i : Instant) :
    overview host k i =
      .ok ⟨exitWithin, overviewLines i (k.schedules.map (shownRow (k.activeAt i)))⟩ := by
  have hnot : k.schedules.isEmpty = false := by simpa using hne
  rw [overview, hnot, scheduleTable, printedTable, shownRows_eq h]
  rfl

end Rows

section Overview

variable {host : Host} {f : Folder} {now : Instant} {config : Option String} {c : Config}
  {name found text : String} {i : Instant}

/-- A row shows the name of a schedule, and behind its windows whether the answer is yes. -/
def MarksRow (s : Schedule) (yes : Bool) (row : List (List Char)) : Prop :=
  ∃ ranges, row = [Markup.shownChars s.1.toList, ranges, if yes then "yes".toList else "no".toList]

theorem contains_activeAt_iff {k : Checker} (hdistinct : DistinctNames k.schedules)
    {s : String × WindowSet} (hs : s ∈ k.schedules) :
    (k.activeAt i).contains s.1 = true ↔ s.2.contains i = true := by
  rw [List.contains_iff_mem, Checker.activeAt, List.mem_map]
  constructor
  · rintro ⟨t, ht, hname⟩
    obtain ⟨hmem, hcontains⟩ := List.mem_filter.mp ht
    rwa [← hdistinct.eq_of_mem hmem hs (congrArg Text.lower hname)]
  · intro hcontains
    exact ⟨s, List.mem_filter.mpr ⟨hs, hcontains⟩, rfl⟩

theorem marksRow_shownRow {sets : List (String × WindowSet)} (hdistinct : DistinctNames sets)
    {s : Schedule} {t : String × WindowSet} (ht : t ∈ sets) (hset : Config.IsSetOf s t) :
    MarksRow s (t.2.contains i) (shownRow (Checker.activeAt ⟨sets, c.timezone⟩ i) t) := by
  refine ⟨Markup.shownChars t.2.render.toList, ?_⟩
  have hmark := contains_activeAt_iff (k := ⟨sets, c.timezone⟩) (i := i) hdistinct ht
  rw [shownRow, Bool.eq_iff_iff.mpr hmark, hset.1]

/-- The overview has a row for each schedule. The row of the schedule that has a name in some spelling
says yes exactly when a check of that name is within. -/
theorem exists_overview (hload : loadConfig f config = .ok c)
    (hnames : ∀ s ∈ c.schedules, '[' ∉ s.1.toList) (hne : name ≠ "") (hbracket : '[' ∉ name.toList)
    (hfound : c.findName? name = some found) (htext : text ≠ "")
    (hread : Instant.read text c.timezone now = .ok i) :
    ∃ rows, run host f now (.schedules (some text) config) = .ok ⟨exitWithin, overviewLines i rows⟩ ∧
      List.Forall₂ (fun s row => ∃ yes, MarksRow s yes row ∧ (s.1 = found →
        (yes = true ↔ exitNumber (checkAt host f now config name text) = exitWithin)))
        c.schedules rows := by
  have hvalid := valid_of_loadConfig hload
  obtain ⟨sets, hsets, -, hchecker⟩ := Config.exists_checker hvalid
  have hsetNames := Config.names_of_forall₂_isSetOf hsets
  have hdistinct : DistinctNames sets := (distinctNames_congr hsetNames).mpr hvalid.distinct
  have hinput : schedulesInput f now (some text) config = .ok (⟨sets, c.timezone⟩, i) :=
    schedulesInput_eq_ok_iff.mpr ⟨c, hload, hchecker, instantOf_of_read htext hread⟩
  obtain ⟨t, ht, hfind, hschedule, -⟩ := (Config.lookup_cases hvalid hsets name).resolve_left
    (by simp [hfound])
  obtain rfl : t.1 = found := Option.some.inj (hfind.symm.trans hfound)
  have hcheck : exitNumber (checkAt host f now config name text) = exitWithin ↔ _ :=
    exitNumber_checkAt_eq_within_iff hload hne hbracket hschedule htext hread
  refine ⟨sets.map (shownRow (Checker.activeAt ⟨sets, c.timezone⟩ i)), ?_, ?_⟩
  · have hbrackets : ∀ t ∈ sets, '[' ∉ t.1.toList := by
      intro t ht
      obtain ⟨s, hs, hname⟩ := List.mem_map.mp (hsetNames ▸ List.mem_map_of_mem ht)
      exact hname ▸ hnames s hs
    rw [run_schedules_of_input hinput]
    exact overview_eq (List.ne_nil_of_mem ht) hbrackets i
  · rw [List.forall₂_map_right_iff, List.forall₂_iff_zip]
    refine ⟨hsets.length_eq, fun {s u} hzip => ?_⟩
    have hu := (List.of_mem_zip hzip).2
    have hset := (List.forall₂_iff_zip.mp hsets).2 hzip
    refine ⟨u.2.contains i, marksRow_shownRow hdistinct hu hset, fun hname => ?_⟩
    rw [hcheck, hdistinct.eq_of_mem hu ht (congrArg Text.lower (hset.1.trans hname))]

end Overview

/-- The commands agree on a schedule that a configuration has under a name in some spelling. `check`
gives a verdict at every text that stands for an instant. `filter` prints the instants of those texts
at which it is within, in order, and exits accordingly, as long as they have long forms; if one of its
texts is rejected it ends in the report of such a text alone. The row of the schedule in the overview
says yes exactly when `check` is within. -/
theorem commands_agree {host : Host} {f : Folder} {now : Instant} {config : Option String} {c : Config}
    {name found : String} (hload : loadConfig f config = .ok c)
    (hnames : ∀ s ∈ c.schedules, '[' ∉ s.1.toList) (hne : name ≠ "") (hbracket : '[' ∉ name.toList)
    (hfound : c.findName? name = some found) :
    (∀ texts : List String,
      (∀ text ∈ texts, text ≠ "" ∧ ∃ i, Instant.read text c.timezone now = .ok i) →
        (∀ text ∈ texts, ∃ report, checkAt host f now config name text = .ok report ∧
          (report.exit = exitWithin ∨ report.exit = exitOutside)) ∧
        ((∀ text ∈ texts, ∀ i, Instant.read text c.timezone now = .ok i → i.hasIsoText = true) →
          filterOf host f now config name texts =
            .ok ⟨if (textsWithin host f now config name texts).isEmpty then exitOutside else exitWithin,
              (textsWithin host f now config name texts).filterMap (isoText? c now)⟩)) ∧
    (∀ text i, text ≠ "" → Instant.read text c.timezone now = .ok i →
      ∃ rows, run host f now (.schedules (some text) config) = .ok ⟨exitWithin, overviewLines i rows⟩ ∧
        List.Forall₂ (fun s row => ∃ yes, MarksRow s yes row ∧ (s.1 = found →
          (yes = true ↔ exitNumber (checkAt host f now config name text) = exitWithin)))
          c.schedules rows) ∧
    ∀ texts : List String, (∃ text ∈ texts, ∃ e, Instant.read text c.timezone now = .error e) →
      ∃ text ∈ texts, ∃ e, Instant.read text c.timezone now = .error e ∧
        filterOf host f now config name texts =
          if (Trouble.stamp e).isForeseen then troubleReport host (.stamp e)
          else .error (.stamp e) := by
  obtain ⟨sets, hsets, -⟩ := Config.exists_checker (valid_of_loadConfig hload)
  obtain ⟨t, -, -, hschedule, -⟩ :=
    (Config.lookup_cases (valid_of_loadConfig hload) hsets name).resolve_left (by simp [hfound])
  refine ⟨?_, ?_, ?_⟩
  · intro texts htexts
    obtain ⟨is, hread⟩ := exists_forall₂_of_forall fun text htext => (htexts text htext).2
    have hnonempty : ∀ text ∈ texts, text ≠ "" := fun text htext => (htexts text htext).1
    refine ⟨?_, fun hiso => ?_⟩
    · intro text htext
      obtain ⟨i, hi⟩ := (htexts text htext).2
      obtain ⟨lines, hlines⟩ := checkAt_eq hload hne hbracket hschedule (hnonempty text htext) hi
      refine ⟨_, hlines, ?_⟩
      cases t.2.contains i
      · exact Or.inr rfl
      · exact Or.inl rfl
    · refine filterOf_eq_textsWithin hload hne hbracket hschedule hnonempty hread fun i hi _ => ?_
      obtain ⟨text, htext, hi⟩ := exists_mem_of_forall₂ hread.flip hi
      exact hiso text htext i hi
  · intro text i htext hread
    exact exists_overview hload hnames hne hbracket hfound htext hread
  · intro texts hrejected
    exact filterOf_of_rejected hload hne hschedule hrejected

/-- The texts of an afternoon of which the schedule of the office is open at the first and the last. -/
def officeTexts : List String :=
  ["2024-11-25 12:30", "2024-11-25T19:00:00+02:00", "2024-11-25 12:30"]

theorem office_commands_agree :
    loadConfig officeFolder none = .ok office ∧ office.findName? "OFFICE" = some "Office" ∧
      filterOf plainHost officeFolder newYear none "OFFICE" officeTexts =
        .ok ⟨exitWithin, ["2024-11-25T12:30:00Z", "2024-11-25T12:30:00Z"]⟩ ∧
      ∃ i row others, run plainHost officeFolder newYear (.schedules (some "2024-11-25 12:30") none) =
          .ok ⟨exitWithin, overviewLines i (row :: others)⟩ ∧
        MarksRow ("Office", ["Mon 09:00-17:00", "Tue"]) true row := by
  have hfound : office.findName? "OFFICE" = some "Office" := by decide +kernel
  have hany : ∀ text ∈ officeTexts, text ≠ "" ∧
      (Instant.read text office.timezone newYear).toOption.any Instant.hasIsoText = true := by
    decide +kernel
  have hread : ∀ text ∈ officeTexts, text ≠ "" ∧
      ∃ i, Instant.read text office.timezone newYear = .ok i := by
    intro text htext
    obtain ⟨i, hi, -⟩ := exists_of_toOption_any (hany text htext).2
    exact ⟨(hany text htext).1, i, hi⟩
  have hiso : ∀ text ∈ officeTexts, ∀ i, Instant.read text office.timezone newYear = .ok i →
      i.hasIsoText = true := by
    intro text htext i hi
    obtain ⟨j, hj, hiso⟩ := exists_of_toOption_any (hany text htext).2
    rw [hi] at hj
    exact Except.ok.inj hj ▸ hiso
  obtain ⟨hfilter, hoverview, -⟩ := @commands_agree plainHost _ newYear _ _ _ _ loadConfig_officeFolder
    (by decide) (by decide) (by decide) hfound
  refine ⟨loadConfig_officeFolder, hfound, ?_, ?_⟩
  · rw [(hfilter officeTexts hread).2 hiso]
    refine congrArg Except.ok ?_
    decide +kernel
  · obtain ⟨hne, i, hi⟩ := hread "2024-11-25 12:30" (by decide)
    obtain ⟨rows, hrun, hrows⟩ := hoverview "2024-11-25 12:30" i hne hi
    obtain ⟨row, others, ⟨yes, hmarks, hyes⟩, -, rfl⟩ := List.forall₂_cons_left_iff.mp hrows
    obtain rfl : yes = true := (hyes rfl).mpr (by decide +kernel)
    exact ⟨i, row, others, hrun, hmarks⟩

end Command

end Timetable
