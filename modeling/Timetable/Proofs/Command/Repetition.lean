import Timetable.Proofs.Command.Loading
import Timetable.Proofs.Command.Wording
import Timetable.Proofs.Stamp.Iso

/-!
A filter behind a filter. Main statement: on the clock of universal time `filter` keeps all that it has
printed, and prints it in the same form.
-/
namespace Timetable

namespace Command

/-! ### Arguments behind options -/

section Arguments

variable {keys : List Key} {options texts : List String} {items : List Item}

theorem formOf_of_isDigit {text : String} {c : Char} {cs : List Char} (htext : text.toList = c :: cs)
    (hc : c.isDigit = true) (keys : List Key) : formOf keys text = .argument := by
  have hdash : c ≠ '-' := by
    rintro rfl
    cases hc
  unfold formOf
  rw [htext]
  split
  · next h => exact absurd (List.cons.inj h).1 hdash
  · next h => exact absurd (List.cons.inj h).1 hdash
  · next h => exact absurd (List.cons.inj h).1 hdash
  · rfl

theorem itemsOf_of_arguments (h : ∀ text ∈ texts, formOf keys text = .argument) :
    itemsOf keys texts = some (texts.map .argument) := by
  induction texts with
  | nil => rfl
  | cons text texts ih =>
      rw [List.forall_mem_cons] at h
      rw [itemsOf, h.1, ih h.2]
      rfl

/-- Texts that are no options are arguments behind other arguments, also where the others end the
options. -/
theorem itemsOf_append (hitems : itemsOf keys options = some items)
    (htexts : ∀ text ∈ texts, formOf keys text = .argument) :
    itemsOf keys (options ++ texts) = some (items ++ texts.map .argument) := by
  -- The cases are those of the reading: an option without an attached value takes the next argument.
  fun_induction itemsOf keys options generalizing items with
  | case1 =>
      cases hitems
      exact itemsOf_of_arguments htexts
  | case2 option rest hform =>
      cases hitems
      rw [List.cons_append, itemsOf, hform, ← List.map_append]
  | case3 option rest hform ih =>
      obtain ⟨others, hothers, rfl⟩ := Option.map_eq_some_iff.mp hitems
      rw [List.cons_append, itemsOf, hform, ih hothers]
      rfl
  | case4 => cases hitems
  | case5 option rest key value hform ih =>
      obtain ⟨others, hothers, rfl⟩ := Option.map_eq_some_iff.mp hitems
      rw [List.cons_append, itemsOf, hform, ih hothers]
      rfl
  | case6 => cases hitems
  | case7 option key hform value rest ih =>
      obtain ⟨others, hothers, rfl⟩ := Option.map_eq_some_iff.mp hitems
      rw [List.cons_append, List.cons_append, itemsOf, hform]
      simp only [ih hothers]
      rfl

theorem plainArguments_append_arguments (items : List Item) (texts : List String) :
    plainArguments (items ++ texts.map .argument) = plainArguments items ++ texts := by
  rw [plainArguments, List.filterMap_append, List.filterMap_map]
  exact congrArg (plainArguments items ++ ·) (List.filterMap_some (l := texts))

theorem valuesOf_append_arguments (key : Key) (items : List Item) (texts : List String) :
    valuesOf key (items ++ texts.map .argument) = valuesOf key items := by
  rw [valuesOf, List.filterMap_append, List.filterMap_map]
  simp [valuesOf]

/-- The command line of a filter with options in front and its texts behind them. -/
theorem ofArguments?_filter {items : List Item} (hne : texts ≠ [])
    (hitems : itemsOf [.range, .schedule, .config] options = some items)
    (hoptions : plainArguments items = [])
    (htexts : ∀ text ∈ texts, formOf [.range, .schedule, .config] text = .argument) :
    ofArguments? false ("filter" :: (options ++ texts)) =
      some (false, .filter (selectionOf items) texts (valueOf? .config items)) := by
  have hplain : plainArguments (items ++ texts.map .argument) = texts := by
    rw [plainArguments_append_arguments, hoptions, List.nil_append]
  have hnamed : ofNamed? "filter" (options ++ texts) =
      some (.filter (selectionOf items) texts (valueOf? .config items)) := by
    simp only [ofNamed?, itemsOf_append hitems htexts, Option.bind_eq_bind, Option.bind_some, hplain,
      selectionOf, valueOf?, valuesOf_append_arguments]
  have hreports : asksForReports "filter" = false := rfl
  rw [ofArguments?.eq_def]
  simp [hreports, hnamed]

end Arguments

/-! ### Printed instants -/

section Repetition

variable {host : Host} {f : Folder} {now : Instant} {selection : Selection}
  {texts lines : List String} {config : Option String} {c : Config}

theorem run_filter_eq_within_iff :
    run host f now (.filter selection texts config) = .ok ⟨exitWithin, lines⟩ ↔
      ∃ s is, filterInput f now selection texts config = .ok (s, is) ∧ s.select is ≠ [] ∧
        HaveIsoTexts s is ∧ lines = (s.select is).map fun i => String.ofList i.isoText := by
  constructor
  · intro h
    cases hinput : filterInput f now selection texts config with
    | ok found =>
        obtain ⟨s, is⟩ := found
        rw [run_filter_of_input hinput] at h
        have hiso := haveIsoTexts_of_matching h
        rw [matching_of_haveIsoTexts hiso, Except.ok.injEq, Report.mk.injEq] at h
        obtain ⟨hexit, rfl⟩ := h
        refine ⟨s, is, rfl, ?_, hiso, rfl⟩
        intro hnil
        rw [hnil] at hexit
        cases hexit
    | error t =>
        rw [run, runFilter, hinput, orReport] at h
        split at h
        · obtain ⟨shown, -, h⟩ := bind_eq_ok_iff.mp h
          cases h
        · cases h
  · rintro ⟨s, is, hinput, hne, hiso, rfl⟩
    have hempty : (s.select is).isEmpty = false := by simpa using hne
    rw [run_filter_of_input hinput, matching_of_haveIsoTexts hiso, hempty]
    rfl

theorem select_select (s : WindowSet) (is : List Instant) :
    s.select (s.select is) = s.select is := by
  simp [WindowSet.select]

theorem haveIsoTexts_select {s : WindowSet} {is : List Instant} (h : HaveIsoTexts s is) :
    HaveIsoTexts s (s.select is) :=
  fun i hi => h i (List.mem_of_mem_filter hi)

/-- Instants that are read on the clock of universal time and have long forms are read again from
these. -/
theorem instantsOf_isoText (hutc : Zone.find c.timezone = .ok .utc) {is found : List Instant}
    (hread : instantsOf c now texts = .ok is) (hfound : ∀ i ∈ found, i ∈ is ∧ i.hasIsoText = true)
    (now' : Instant) :
    instantsOf c now' (found.map fun i => String.ofList i.isoText) = .ok found := by
  rw [instantsOf_eq_ok_iff] at hread ⊢
  rw [List.forall₂_map_left_iff, List.forall₂_same]
  intro i hi
  obtain ⟨text, -, htext⟩ := exists_mem_of_forall₂ hread.flip (hfound i hi).1
  exact Instant.read_isoText_of_read hutc htext (hfound i hi).2 now'

/-- The long form of an instant that is read on the clock of universal time is no option. -/
theorem formOf_isoText (hutc : Zone.find c.timezone = .ok .utc) {text : String} {i : Instant}
    (hread : Instant.read text c.timezone now = .ok i) (keys : List Key) :
    formOf keys (String.ofList i.isoText) = .argument := by
  obtain ⟨o, hoffset, -⟩ := Instant.isTold_of_read hutc hread
  obtain ⟨a, b, d, cs, htext, ha, -⟩ := Stamp.Iso.exists_isoText hoffset
  exact formOf_of_isDigit (String.toList_ofList.trans htext) ha keys

/-- On the clock of universal time, a filter that finds instants finds all that it has printed, prints them
as they are, and goes on doing so whenever it runs. The lines may be arguments behind the options that the
filter had. -/
theorem filter_repeats (hload : loadConfig f config = .ok c) (hutc : Zone.find c.timezone = .ok .utc)
    (hrun : run host f now (.filter selection texts config) = .ok ⟨exitWithin, lines⟩)
    (now' : Instant) :
    run host f now' (.filter selection lines config) = .ok ⟨exitWithin, lines⟩ ∧
      ∀ options items, itemsOf [.range, .schedule, .config] options = some items →
        plainArguments items = [] → selectionOf items = selection → valueOf? .config items = config →
          answer host f now' ("filter" :: (options ++ lines)) = .ok ⟨exitWithin, lines⟩ := by
  obtain ⟨s, is, hinput, hne, hiso, rfl⟩ := run_filter_eq_within_iff.mp hrun
  obtain ⟨c', hload', hresolve, hinstants⟩ := filterInput_eq_ok_iff.mp hinput
  obtain rfl : c' = c := Except.ok.inj (hload'.symm.trans hload)
  have hfound : ∀ i ∈ s.select is, i ∈ is ∧ i.hasIsoText = true := by
    intro i hi
    obtain ⟨hmem, hcontains⟩ := List.mem_filter.mp hi
    exact ⟨hmem, hiso i hmem hcontains⟩
  -- The same windows are asked about the same instants, and all of those were found before.
  have hagain : run host f now' (.filter selection
      ((s.select is).map fun i => String.ofList i.isoText) config) =
        .ok ⟨exitWithin, (s.select is).map fun i => String.ofList i.isoText⟩ := by
    have hread := instantsOf_isoText hutc hinstants hfound now'
    refine run_filter_eq_within_iff.mpr ⟨s, s.select is,
      filterInput_eq_ok_iff.mpr ⟨c', hload', hresolve, hread⟩, ?_, haveIsoTexts_select hiso, ?_⟩
    · rwa [select_select]
    · rw [select_select]
  refine ⟨hagain, ?_⟩
  rintro options items hitems hplain rfl rfl
  have hform : ∀ line ∈ (s.select is).map fun i => String.ofList i.isoText,
      formOf [.range, .schedule, .config] line = .argument := by
    intro line hline
    obtain ⟨i, hi, rfl⟩ := List.mem_map.mp hline
    obtain ⟨text, -, htext⟩ :=
      exists_mem_of_forall₂ (instantsOf_eq_ok_iff.mp hinstants).flip (hfound i hi).1
    exact formOf_isoText hutc htext _
  have hlines : (s.select is).map (fun i => String.ofList i.isoText) ≠ [] := by simpa using hne
  rw [answer, ofArguments?_filter hlines hitems hplain hform]
  exact hagain

/-- Texts of many forms for times at which the office is open, and one at which it is not. -/
def mixedTexts : List String :=
  ["2024-W48-1T09:30:15.5Z", "2024-330 13:00", "20241125T141500+0230", "2024/11/26 9:30",
    "2024-11-25T18:00", "2024-11-25 09:00:00.1234567-00:00"]

/-- The long forms of those that are kept. -/
def mixedLines : List String :=
  ["2024-11-25T09:30:15.500000Z", "2024-11-25T13:00:00Z", "2024-11-25T14:15:00+02:30",
    "2024-11-26T09:30:00Z", "2024-11-25T09:00:00.123456+00:00"]

theorem office_filter_repeats :
    run plainHost officeFolder newYear (.filter ⟨[], some "office"⟩ mixedTexts none) =
        .ok ⟨exitWithin, mixedLines⟩ ∧
      answer plainHost officeFolder newYear (["filter", "--schedule", "office"] ++ mixedLines) =
        .ok ⟨exitWithin, mixedLines⟩ := by
  have hrun : run plainHost officeFolder newYear (.filter ⟨[], some "office"⟩ mixedTexts none) =
      .ok ⟨exitWithin, mixedLines⟩ := eq_ok_of_toOption (by decide +kernel)
  obtain ⟨-, hanswer⟩ := filter_repeats loadConfig_officeFolder rfl hrun newYear
  exact ⟨hrun, hanswer ["--schedule", "office"] [.value .schedule "office"] (by decide) rfl rfl rfl⟩

end Repetition

end Command

end Timetable
