import Mathlib.Data.List.Perm.Subperm
import Timetable.Config.File
import Timetable.Proofs.Config.Insertion
import Timetable.Proofs.Config.Validity
import Timetable.Proofs.Yaml.Listing

/-!
The schedules of a file. Main statement: of the entries that a file lists as schedules, those of one
name become one schedule, and names that differ in letter case only are not accepted.
-/
namespace Timetable

namespace Config

theorem valid_of_ofText {text : String} {c : Config} (h : ofText text = .ok c) : Valid c.schedules := by
  rw [ofText] at h
  split at h
  · cases h
  · split at h
    · exact valid_of_ofEntries (mapError_eq_ok_iff.mp h)
    · split at h
      · exact valid_of_ofEntries (mapError_eq_ok_iff.mp h)
      · cases h

theorem valid_of_ofEntry {e : FileEntry} {c : Config} (h : ofEntry e = .ok c) : Valid c.schedules := by
  cases e with
  | missing => cases h
  | folder => cases h
  | file text => exact valid_of_ofText h

/-! ### Keys -/

/-- A value that may be a text: a text, or bytes. -/
def hasLetters : Value → Bool
  | .text _ => true
  | .bytes _ => true
  | _ => false

theorem hasLetters_of_toInt? {v : Value} {n : Int} (h : v.toInt? = some n) :
    hasLetters v = false := by
  cases v <;> first | rfl | cases h

theorem eq_or_hasLetters_of_sameKey {a b : Value} (h : Value.sameKey a b = true) :
    a = b ∨ hasLetters a = false ∧ hasLetters b = false := by
  unfold Value.sameKey at h
  split at h
  · exact Or.inl rfl
  · exact Or.inl (congrArg Value.text (eq_of_beq h))
  · exact Or.inl (congrArg Value.bytes (eq_of_beq h))
  · exact Or.inr ⟨rfl, rfl⟩
  · exact Or.inr ⟨rfl, rfl⟩
  · exact Or.inr ⟨rfl, rfl⟩
  · exact Or.inr ⟨rfl, rfl⟩
  · exact Or.inr ⟨rfl, rfl⟩
  · split at h
    · next hm hn => exact Or.inr ⟨hasLetters_of_toInt? hm, hasLetters_of_toInt? hn⟩
    · split at h
      · exact Or.inr ⟨rfl, rfl⟩
      · cases h
    · cases h

/-- Keys that a mapping takes for the same are the same text, if they are texts. -/
theorem textOf_congr (a b : Value) (h : Value.sameKey a b = true) : textOf a = textOf b := by
  have hnot : ∀ v, hasLetters v = false → textOf v = .error .notText := by
    intro v hv
    cases v <;> first | rfl | cases hv
  rcases eq_or_hasLetters_of_sameKey h with rfl | ⟨ha, hb⟩
  · rfl
  · rw [hnot a ha, hnot b hb]

/-- A key is the text that is the name of a field. -/
def isKeyOf (name : String) (k : Value) : Bool :=
  match k with
  | .text s => s == name
  | _ => false

theorem isKeyOf_congr {name : String} (a b : Value) (h : Value.sameKey a b = true) :
    isKeyOf name a = isKeyOf name b := by
  have hnot : ∀ v, hasLetters v = false → isKeyOf name v = false := by
    intro v hv
    cases v <;> first | rfl | cases hv
  rcases eq_or_hasLetters_of_sameKey h with rfl | ⟨ha, hb⟩
  · rfl
  · rw [hnot a ha, hnot b hb]

/-! ### Fields -/

section Fields

variable {name : String} {acc fields : List (Value × Value)}

theorem sameKey_of_isKeyOf {a b : Value} (ha : isKeyOf name a = true) (hb : isKeyOf name b = true) :
    Value.sameKey a b = true := by
  cases a <;> first | cases ha | skip
  cases b <;> first | cases hb | skip
  rw [Value.sameKey, eq_of_beq ha, eq_of_beq hb]
  exact beq_self_eq_true name

theorem field?_cons (f : Value × Value) :
    field? name (f :: fields) = if isKeyOf name f.1 then some f.2 else field? name fields := by
  have hfield (fields : List (Value × Value)) :
      field? name fields = (fields.find? fun e => isKeyOf name e.1).map (·.2) := rfl
  rw [hfield, hfield, List.find?_cons]
  cases isKeyOf name f.1 <;> rfl

theorem field?_insertBy (f : Value × Value) :
    field? name (insertBy Value.sameKey f acc) =
      if isKeyOf name f.1 then some f.2 else field? name acc := by
  induction acc with
  | nil => exact field?_cons f
  | cons g gs ih =>
      rw [insertBy]
      split
      · next hsame =>
        rw [field?_cons, field?_cons, isKeyOf_congr g.1 f.1 hsame]
        split <;> rfl
      · next hnot =>
        rw [field?_cons, field?_cons, ih]
        cases hg : isKeyOf name g.1 with
        | false => rfl
        | true =>
            have hf : isKeyOf name f.1 = false := by
              rw [Bool.eq_false_iff]
              exact fun hf => hnot (sameKey_of_isKeyOf hg hf)
            rw [hf]
            rfl

/-- A field has the value that was entered last under its name. -/
theorem field?_insertAllBy :
    field? name (insertAllBy Value.sameKey acc fields) =
      (((fields.reverse.find? fun f => isKeyOf name f.1).map (·.2)).or (field? name acc)) := by
  induction fields generalizing acc with
  | nil => rfl
  | cons f fields ih =>
      rw [insertAllBy, List.foldl_cons, ← insertAllBy, ih, field?_insertBy, List.reverse_cons,
        List.find?_append]
      cases fields.reverse.find? fun f => isKeyOf name f.1 with
      | some g => rfl
      | none =>
          rw [Option.none_or, List.find?_cons]
          cases isKeyOf name f.1 <;> rfl

end Fields

/-! ### Entries of files -/

open Yaml (Node)
open Yaml.Node (IsField keyContent content)

/-- The value of the last entry under a name. -/
def lastValue? (name : String) (entries : List (Node × Node)) : Option Node :=
  (entries.reverse.find? fun e => match keyContent e.1 with
    | .ok k => isKeyOf name k
    | .error _ => false).map (·.2)

/-- The node that the text of a file consists of. -/
def root? (text : String) : Option Node :=
  (Node.ofTokens (Yaml.tokens (withLineFeeds text.toList))).toOption.join

/-- The entries that the text of a file lists as schedules. -/
def listedSchedules (text : String) : List (Node × Node) :=
  ((((root? text).bind Node.listed?).bind (lastValue? "schedules")).bind Node.listed?).getD []

theorem find?_of_forall₂ {α β : Type} {R : α → β → Prop} {p : α → Bool} {q : β → Bool}
    {as : List α} {bs : List β} (h : List.Forall₂ R as bs) (hpq : ∀ a b, R a b → p a = q b) :
    Option.Rel R (as.find? p) (bs.find? q) := by
  induction h with
  | nil => exact .none
  | @cons a b as bs hab _ ih =>
      rw [List.find?_cons, List.find?_cons, hpq a b hab]
      cases q b with
      | true => exact .some hab
      | false => exact ih

theorem rel_lastValue? (name : String) {entries : List (Node × Node)}
    {fields : List (Value × Value)} (h : List.Forall₂ IsField entries fields) :
    Option.Rel (fun n v => content n = .ok v) (lastValue? name entries)
      (field? name (entered Value.sameKey fields)) := by
  have hmap {x : Option (Node × Node)} {y : Option (Value × Value)} (hrel : Option.Rel IsField x y) :
      Option.Rel (fun n v => content n = .ok v) (x.map (·.2)) ((y.map (·.2)).or none) := by
    cases hrel with
    | some hfield => exact .some hfield.2
    | none => exact .none
  rw [entered, field?_insertAllBy]
  refine hmap (find?_of_forall₂ (List.forall₂_reverse_iff.mpr h) fun e f hfield => ?_)
  simp only [hfield.1]

theorem foldl_insertEntry (fields : List (Value × Value)) :
    fields.foldl (fun m f => Value.insertEntry f.1 f.2 m) [] =
      entered Value.sameKey fields := by
  simp only [insertEntry_eq_insertBy]
  rfl

theorem foldl_insertSchedule (pairs : List Schedule) :
    pairs.foldl (fun acc s => insertSchedule s acc) [] =
      entered (fun m n => decide (m = n)) pairs := by
  simp only [insertSchedule_eq_insertBy]
  rfl

/-- The schedules of accepted data: none if the field is missing, else those that come of entering what
the entries of the field stand for. -/
theorem schedules_of_ofEntries {entries : List (Value × Value)} {c : Config}
    (h : ofEntries entries = .ok c) :
    (field? "schedules" entries = none ∧ c.schedules = []) ∨
      ∃ es pairs, field? "schedules" entries = some (.map es) ∧
        es.map scheduleOf = pairs.map .ok ∧
        c.schedules = entered (fun m n => decide (m = n)) pairs := by
  obtain ⟨-, -, -, hschedules⟩ := ofEntries_eq_ok_iff.mp h
  rcases readField_eq_ok_iff.mp hschedules with hdefault | ⟨v, ss, hfield, hkind, hcheck⟩
  · exact Or.inl hdefault
  · obtain ⟨rfl, -⟩ := checkSchedules_eq_ok_iff.mp hcheck
    simp only [schedulesOf] at hkind
    split at hkind
    · next es =>
      obtain ⟨pairs, hpairs, hinsert⟩ := map_eq_ok_iff.mp hkind
      refine Or.inr ⟨es, pairs, hfield, collect_eq_ok_iff.mp hpairs, ?_⟩
      rw [← hinsert, foldl_insertSchedule]
    · cases hkind

/-- A file that is accepted is empty, or a mapping, or some other value that counts as empty. -/
theorem exists_root?_of_ofText {text : String} {c : Config} (h : ofText text = .ok c) :
    (root? text = none ∧ ofEntries [] = .ok c) ∨
      ∃ n v, root? text = some n ∧ content n = .ok v ∧
        ((∃ es, v = .map es ∧ ofEntries es = .ok c) ∨
          (∀ es, v ≠ .map es) ∧ ofEntries [] = .ok c) := by
  rw [ofText, Yaml.read] at h
  rw [root?]
  cases hroot : Node.ofTokens (Yaml.tokens (withLineFeeds text.toList)) with
  | error e =>
      simp only [hroot] at h
      cases h
  | ok root =>
      simp only [hroot] at h
      cases root with
      | none =>
          refine Or.inl ⟨rfl, ?_⟩
          exact (mapError_eq_ok_iff (f := LoadError.data)).mp h
      | some n =>
          cases hcontent : n.content with
          | error f =>
              simp only [hcontent] at h
              cases h
          | ok v =>
              have hread : (Except.ok v : Except Yaml.Fault Value).mapError Yaml.Fault.error = .ok v :=
                rfl
              simp only [hcontent, hread] at h
              refine Or.inr ⟨n, v, rfl, hcontent, ?_⟩
              cases hfalsy : v.isFalsy with
              | true =>
                  rw [hfalsy, if_pos rfl] at h
                  have hnothing := (mapError_eq_ok_iff (f := LoadError.data)).mp h
                  by_cases hmap : ∃ es, v = .map es
                  · obtain ⟨es, rfl⟩ := hmap
                    obtain rfl : es = [] := List.isEmpty_iff.mp hfalsy
                    exact Or.inl ⟨[], rfl, hnothing⟩
                  · exact Or.inr ⟨fun es hes => hmap ⟨es, hes⟩, hnothing⟩
              | false =>
                  rw [hfalsy, if_neg Bool.false_ne_true] at h
                  split at h
                  · next es => exact Or.inl ⟨es, rfl, mapError_eq_ok_iff.mp h⟩
                  · cases h

/-- A file that is accepted lists entries for its schedules that each stand for a key and a value. Its
schedules are made of what comes of entering these one after the other. -/
theorem exists_fields_of_ofText {text : String} {c : Config} (h : ofText text = .ok c) :
    ∃ fields pairs, List.Forall₂ IsField (listedSchedules text) fields ∧
      (entered Value.sameKey fields).map scheduleOf = pairs.map .ok ∧
      c.schedules = entered (fun m n => decide (m = n)) pairs := by
  have hnone (hlisted : listedSchedules text = []) (hnil : c.schedules = []) :
      ∃ fields pairs, List.Forall₂ IsField (listedSchedules text) fields ∧
        (entered Value.sameKey fields).map scheduleOf = pairs.map .ok ∧
        c.schedules = entered (fun m n => decide (m = n)) pairs :=
    ⟨[], [], hlisted ▸ .nil, rfl, hnil⟩
  have hempty (h : ofEntries [] = .ok c) : c.schedules = [] := by
    rcases schedules_of_ofEntries h with ⟨-, hnil⟩ | ⟨es, pairs, hfield, -⟩
    · exact hnil
    · cases hfield
  rcases exists_root?_of_ofText h with ⟨hroot, hentries⟩ | ⟨n, v, hroot, hcontent, hcases⟩
  · refine hnone ?_ (hempty hentries)
    rw [listedSchedules, hroot]
    rfl
  · rcases hcases with ⟨es, rfl, hentries⟩ | ⟨hnot, hentries⟩
    · obtain ⟨entries, fields, hlisted, hfields, rfl⟩ := Node.exists_listed?_of_content hcontent
      rw [foldl_insertEntry] at hentries
      have hlast := rel_lastValue? "schedules" hfields
      have hschedules : listedSchedules text =
          ((lastValue? "schedules" entries).bind Node.listed?).getD [] := by
        rw [listedSchedules, hroot, Option.bind_some, hlisted, Option.bind_some]
      generalize lastValue? "schedules" entries = value at hlast hschedules
      rcases schedules_of_ofEntries hentries with ⟨hfield, hnil⟩ | ⟨es, pairs, hfield, hmade⟩
      · rw [hfield] at hlast
        cases hlast
        exact hnone hschedules hnil
      · rw [hfield] at hlast
        cases hlast with
        | some hvalue =>
            obtain ⟨listed, fields, hlisted, hfields, rfl⟩ := Node.exists_listed?_of_content hvalue
            rw [Option.bind_some, hlisted, Option.getD_some] at hschedules
            rw [foldl_insertEntry] at hmade
            exact ⟨fields, pairs, hschedules ▸ hfields, hmade⟩
    · refine hnone ?_ (hempty hentries)
      cases hlisted : n.listed? with
      | none =>
          rw [listedSchedules, hroot, Option.bind_some, hlisted]
          rfl
      | some entries =>
          obtain ⟨es, rfl⟩ := Node.exists_map_of_listed? hlisted hcontent
          exact absurd rfl (hnot es)

/-! ### Schedules -/

theorem textAt_eq_ok_iff {path : List Place} {v : Value} {s : String} :
    textAt path v = .ok s ↔ textOf v = .ok s := by
  rw [textAt]
  cases textOf v <;> simp

theorem map_eq_map_iff_forall₂ {α β γ : Type} {f : α → γ} {g : β → γ} {as : List α} {bs : List β} :
    as.map f = bs.map g ↔ List.Forall₂ (fun a b => f a = g b) as bs := by
  rw [← List.forall₂_eq_eq_eq, List.forall₂_map_left_iff, List.forall₂_map_right_iff]

/-- A value stands for a list of texts. -/
def AreTexts (v : Value) (texts : List String) : Prop :=
  ∃ items, listOf v = .ok items ∧
    List.Forall₂ (fun item text => textOf item = .ok text) items texts

theorem numbered_map_snd (items : List Value) : (numbered items).map (·.2) = items := by
  rw [numbered, List.map_map]
  exact List.zipIdx_map_fst 0 items

theorem textsAt_eq_ok_iff {path : List Place} {v : Value} {texts : List String} :
    textsAt path v = .ok texts ↔ AreTexts v texts := by
  rw [textsAt, AreTexts]
  cases listOf v with
  | error kind => simp
  | ok items =>
      simp only [collect_eq_ok_iff, map_eq_map_iff_forall₂, textAt_eq_ok_iff, Except.ok.injEq,
        exists_eq_left']
      rw [← List.forall₂_map_left_iff (f := fun p : Int × Value => p.2)
        (R := fun item text => textOf item = .ok text), numbered_map_snd]

/-- A key and a value stand for a schedule: for its name, and for the list of its expressions. -/
def StandsFor (f : Value × Value) (s : Schedule) : Prop :=
  textOf f.1 = .ok s.1 ∧ AreTexts f.2 s.2

theorem scheduleOf_eq_ok_iff {f : Value × Value} {s : Schedule} :
    scheduleOf f = .ok s ↔ StandsFor f s := by
  have hname : textAt [.name "schedules", keyPlace f.1, .name "[key]"] f.1 = .ok s.1 ↔
      textOf f.1 = .ok s.1 := textAt_eq_ok_iff
  have htexts : textsAt [.name "schedules", keyPlace f.1] f.2 = .ok s.2 ↔ AreTexts f.2 s.2 :=
    textsAt_eq_ok_iff
  rw [StandsFor, ← hname, ← htexts, scheduleOf]
  simp only [List.cons_append, List.nil_append]
  obtain ⟨name, texts⟩ := s
  cases textAt [.name "schedules", keyPlace f.1, .name "[key]"] f.1 <;>
    cases textsAt [.name "schedules", keyPlace f.1] f.2 <;> simp

section Entering

variable {fields : List (Value × Value)} {pairs : List Schedule}

theorem keyNames_of_forall₂ (h : List.Forall₂ StandsFor fields pairs) :
    fields.map (fun f => textOf f.1) = (pairs.map (·.1)).map .ok := by
  rw [List.map_map, map_eq_map_iff_forall₂]
  exact h.imp fun f s hstands => hstands.1

/-- Schedules of one name are those of one spelling. -/
theorem id_eq_of_decide (m n : String) (h : decide (m = n) = true) : id m = id n :=
  of_decide_eq_true h

theorem mem_names_entered {n : String} :
    n ∈ (entered (fun m n => decide (m = n)) pairs).map (·.1) ↔ n ∈ pairs.map (·.1) :=
  mem_names_entered_iff id_eq_of_decide

theorem mem_keyNames_iff (h : List.Forall₂ StandsFor (entered Value.sameKey fields) pairs)
    (name : Except IssueKind String) :
    name ∈ fields.map (fun f => textOf f.1) ↔ ∃ n ∈ pairs.map (·.1), .ok n = name := by
  rw [← mem_names_entered_iff textOf_congr, keyNames_of_forall₂ h, List.mem_map]

/-- Each schedule comes from a field that was entered. -/
theorem exists_standsFor_of_mem (h : List.Forall₂ StandsFor (entered Value.sameKey fields) pairs)
    {s : Schedule} (hs : s ∈ entered (fun m n => decide (m = n)) pairs) :
    ∃ f ∈ fields, StandsFor f s := by
  obtain ⟨t, ht, hname, htexts⟩ := exists_of_mem_entered id_eq_of_decide hs
  obtain rfl : s = t := Prod.ext hname htexts
  obtain ⟨p, hp, hkey, hvalue⟩ := exists_mem_of_forall₂ h.flip ht
  obtain ⟨f, hf, hsame, hentered⟩ := exists_of_mem_entered textOf_congr hp
  exact ⟨f, hf, hsame ▸ hkey, hentered ▸ hvalue⟩

/-- If no name is repeated, each field gives a schedule of its own. -/
theorem forall₂_of_nodup (h : List.Forall₂ StandsFor (entered Value.sameKey fields) pairs)
    (hnodup : (fields.map fun f => textOf f.1).Nodup) :
    List.Forall₂ StandsFor fields (entered (fun m n => decide (m = n)) pairs) := by
  rw [entered_of_nodup textOf_congr hnodup] at h
  rw [keyNames_of_forall₂ h] at hnodup
  rwa [entered_of_nodup id_eq_of_decide hnodup.of_map]

end Entering

/-- An entry of a file has a name. -/
def IsNameOf (e : Node × Node) (name : String) : Prop :=
  ∃ f, IsField e f ∧ textOf f.1 = .ok name

/-- An entry of a file stands for a schedule. -/
def IsEntryOf (e : Node × Node) (s : Schedule) : Prop :=
  ∃ f, IsField e f ∧ StandsFor f s

theorem nodup_of_length_eq {α : Type} {as bs : List α} (has : as.Nodup)
    (hmem : ∀ a, a ∈ as ↔ a ∈ bs) (hlength : as.length = bs.length) : bs.Nodup := by
  have hsub : as.Subperm bs := has.subperm fun a ha => (hmem a).mp ha
  exact (hsub.perm_of_length_le (by omega)).nodup has

/-- How schedules come of listed entries that have the given names. Names that are the same but for
letter case are spelled alike. The schedules have just these names, each once, and each stands in one of
the entries. There are as many of them as there are entries exactly when no name is repeated, and then
they are the entries one by one. -/
structure ComeOf (entries : List (Node × Node)) (names : List String)
    (schedules : List Schedule) : Prop where
  named : List.Forall₂ IsNameOf entries names
  alike : ∀ m ∈ names, ∀ n ∈ names, Text.lower m = Text.lower n → m = n
  nodup : (schedules.map (·.1)).Nodup
  mem_iff : ∀ n, n ∈ schedules.map (·.1) ↔ n ∈ names
  listed : ∀ s ∈ schedules, ∃ e ∈ entries, IsEntryOf e s
  length_iff : schedules.length = entries.length ↔ names.Nodup
  entries : names.Nodup → List.Forall₂ IsEntryOf entries schedules

/-- The schedules of an accepted file come of the entries that it lists: those of one name become one
schedule, and names that differ in letter case only are not accepted. -/
theorem entries_make_schedules {text : String} {c : Config} (h : ofText text = .ok c) :
    ∃ names, ComeOf (listedSchedules text) names c.schedules := by
  have hvalid := valid_of_ofText h
  obtain ⟨fields, pairs, hfields, hpairs, hschedules⟩ := exists_fields_of_ofText h
  have hstands : List.Forall₂ StandsFor (entered Value.sameKey fields) pairs :=
    (map_eq_map_iff_forall₂.mp hpairs).imp fun f s hs => scheduleOf_eq_ok_iff.mp hs
  obtain ⟨names, hnames⟩ : ∃ names : List String,
      List.Forall₂ (fun f name => textOf f.1 = .ok name) fields names := by
    refine exists_forall₂_of_forall fun f hf => ?_
    obtain ⟨n, -, hn⟩ := (mem_keyNames_iff hstands (textOf f.1)).mp (List.mem_map_of_mem hf)
    exact ⟨n, hn.symm⟩
  have hkeys : fields.map (fun f => textOf f.1) = names.map .ok :=
    map_eq_map_iff_forall₂.mpr hnames
  have hnodup := hvalid.distinct.nodup_names
  have hmem : ∀ n, n ∈ c.schedules.map (·.1) ↔ n ∈ names := by
    intro n
    have hkey := mem_keyNames_iff hstands (.ok n)
    rw [hkeys] at hkey
    rw [hschedules, mem_names_entered]
    simpa using hkey.symm
  have hentries (hdistinct : names.Nodup) :
      List.Forall₂ IsEntryOf (listedSchedules text) c.schedules := by
    have hinjective : (names.map (.ok : String → Except IssueKind String)).Nodup :=
      hdistinct.map fun m n hmn => Except.ok.inj hmn
    rw [hschedules]
    exact forall₂_comp hfields (forall₂_of_nodup hstands (hkeys ▸ hinjective))
  refine ⟨names, forall₂_comp hfields hnames, ?_, hnodup, hmem, ?_, ⟨?_, ?_⟩, hentries⟩
  · intro m hm n hn hlower
    obtain ⟨s, hs, rfl⟩ := List.mem_map.mp ((hmem m).mpr hm)
    obtain ⟨t, ht, rfl⟩ := List.mem_map.mp ((hmem n).mpr hn)
    rw [hvalid.distinct.eq_of_mem hs ht hlower]
  · intro s hs
    rw [hschedules] at hs
    obtain ⟨f, hf, hfs⟩ := exists_standsFor_of_mem hstands hs
    obtain ⟨e, he, hef⟩ := exists_mem_of_forall₂ hfields.flip hf
    exact ⟨e, he, f, hef, hfs⟩
  · intro hlength
    refine nodup_of_length_eq hnodup hmem ?_
    rw [List.length_map, hlength, hfields.length_eq, hnames.length_eq]
  · intro hdistinct
    exact (hentries hdistinct).length_eq.symm

/-- The entries of a file for the office and the weekend become its two schedules. -/
theorem two_entries_make_schedules :
    ∃ c, ofText "schedules:\n  Office: [Mon 09:00-17:00, Tue]\n  Weekend: [Sat]\n" = .ok c ∧
      List.Forall₂ IsEntryOf
        (listedSchedules "schedules:\n  Office: [Mon 09:00-17:00, Tue]\n  Weekend: [Sat]\n")
        c.schedules := by
  have hload : ofText "schedules:\n  Office: [Mon 09:00-17:00, Tue]\n  Weekend: [Sat]\n" =
      .ok ⟨"UTC", "WARNING", [("Office", ["Mon 09:00-17:00", "Tue"]), ("Weekend", ["Sat"])]⟩ :=
    eq_ok_of_toOption (by decide +kernel)
  obtain ⟨names, hcome⟩ := entries_make_schedules hload
  exact ⟨_, hload, hcome.entries (hcome.length_iff.mp (by decide +kernel))⟩

/-- Two entries of one name become one schedule, so the expressions of the first are lost. -/
theorem exists_schedule_lost :
    ¬∀ text c, ofText text = .ok c → c.schedules.length = (listedSchedules text).length := by
  intro h
  have hload : ofText "schedules:\n  a: [Mon]\n  a: [Tue]\n" =
      .ok ⟨"UTC", "WARNING", [("a", ["Tue"])]⟩ :=
    eq_ok_of_toOption (by decide +kernel)
  exact absurd (h _ _ hload) (by decide +kernel)

end Config

end Timetable
