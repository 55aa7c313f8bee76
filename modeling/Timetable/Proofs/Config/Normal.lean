import Timetable.Proofs.Config.File

/-!
Configurations in normal form. Main statements: data are accepted as a configuration exactly when they describe
it and it is in normal form; and a configuration in normal form is described by its own fields, so what is
accepted once is accepted again and kept as it is.
-/
namespace Timetable

theorem Level.upper_of_mem_ranks {l : String × Nat} (h : l ∈ ranks) : Text.upper l.1 = l.1 := by
  have table : ∀ l ∈ ranks, Text.upper l.1 = l.1 := by decide +kernel
  exact table l h

theorem Level.exists_ofName?_iff {name : String} :
    (∃ rank, ofName? name = some rank) ↔ name ∈ ranks.map (·.1) := by
  rw [← Option.isSome_iff_exists, ofName?, Option.isSome_map, List.find?_isSome, List.mem_map]
  simp only [beq_iff_eq]

namespace Config

/-- A configuration as the checks leave it: the name of its zone is known, its level is spelled as in the
table of levels, and its schedules are valid. -/
structure Normal (c : Config) : Prop where
  zone : Zone.isName c.timezone = true
  level : c.logLevel ∈ Level.ranks.map (·.1)
  schedules : Valid c.schedules

theorem normal_default : default.Normal :=
  ⟨by decide +kernel, by decide, valid_nil⟩

/-! ### What data describe -/

/-- Data give a field: they leave it out and it has its default, or they have a value that stands for it. -/
def Gives {α : Type} (name : String) (default : α) (stands : Value → α → Prop)
    (entries : List (Value × Value)) (a : α) : Prop :=
  (field? name entries = none ∧ a = default) ∨ ∃ v, field? name entries = some v ∧ stands v a

/-- A value stands for a zone by its name, which is kept as it is spelled. -/
def IsZone (v : Value) (name : String) : Prop :=
  textOf v = .ok name

/-- A value stands for a level by any spelling of its name. -/
def IsLevel (v : Value) (level : String) : Prop :=
  ∃ name, textOf v = .ok name ∧ level = Text.upper name

/-- A value stands for schedules: it is a mapping, and entering the schedules that its entries stand for one
after the other gives them. -/
def AreSchedules (v : Value) (schedules : List Schedule) : Prop :=
  ∃ es pairs, v = .map es ∧ List.Forall₂ StandsFor es pairs ∧
    schedules = entered (fun m n => decide (m = n)) pairs

/-- Data describe a configuration, be it in normal form or not. -/
structure Describes (entries : List (Value × Value)) (c : Config) : Prop where
  keys : ∀ e ∈ entries, ∃ s, e.1 = .text s
  timezone : Gives "timezone" default.timezone IsZone entries c.timezone
  level : Gives "log_level" default.logLevel IsLevel entries c.logLevel
  schedules : Gives "schedules" default.schedules AreSchedules entries c.schedules

/-- A field is accepted exactly when the data give it and it is in normal form, provided that its default is
and that the checks accept just what stands for something in normal form. -/
theorem readField_eq_ok_iff_gives {α : Type} {p : α → Prop} {stands : Value → α → Prop}
    {name : String} {default a : α} {kind : Value → Except (List Issue) α}
    {check : α → Except Refusal α} {entries : List (Value × Value)} (hdefault : p default)
    (hstands : ∀ v, (∃ b, kind v = .ok b ∧ check b = .ok a) ↔ stands v a ∧ p a) :
    readField name default kind check entries = .ok a ↔ Gives name default stands entries a ∧ p a := by
  rw [readField_eq_ok_iff, Gives, or_and_right]
  refine or_congr ⟨?_, And.left⟩ ⟨?_, ?_⟩
  · rintro ⟨hfield, rfl⟩
    exact ⟨⟨hfield, rfl⟩, hdefault⟩
  · rintro ⟨v, b, hfield, hkind, hcheck⟩
    obtain ⟨hv, ha⟩ := (hstands v).mp ⟨b, hkind, hcheck⟩
    exact ⟨⟨v, hfield, hv⟩, ha⟩
  · rintro ⟨⟨v, hfield, hv⟩, ha⟩
    obtain ⟨b, hkind, hcheck⟩ := (hstands v).mpr ⟨hv, ha⟩
    exact ⟨v, b, hfield, hkind, hcheck⟩

theorem checkZone_eq_ok_iff {name zone : String} :
    checkZone name = .ok zone ↔ name = zone ∧ Zone.isName zone = true := by
  rw [checkZone]
  constructor
  · intro h
    split at h
    · next hname =>
      cases h
      exact ⟨rfl, hname⟩
    · cases h
  · rintro ⟨rfl, hname⟩
    rw [if_pos hname]

theorem checkLevel_eq_ok_iff {name level : String} :
    checkLevel name = .ok level ↔ level = Text.upper name ∧ level ∈ Level.ranks.map (·.1) := by
  rw [← Level.exists_ofName?_iff, checkLevel]
  constructor
  · intro h
    split at h
    · next rank hrank =>
      cases h
      exact ⟨rfl, rank, hrank⟩
    · cases h
  · rintro ⟨rfl, rank, hrank⟩
    rw [hrank]

theorem schedulesOf_eq_ok_iff {v : Value} {schedules : List Schedule} :
    schedulesOf v = .ok schedules ↔ AreSchedules v schedules := by
  constructor
  · intro h
    simp only [schedulesOf] at h
    split at h
    · next es =>
      obtain ⟨pairs, hpairs, rfl⟩ := map_eq_ok_iff.mp h
      refine ⟨es, pairs, rfl, ?_, foldl_insertSchedule pairs⟩
      exact (map_eq_map_iff_forall₂.mp (collect_eq_ok_iff.mp hpairs)).imp
        fun f s hs => scheduleOf_eq_ok_iff.mp hs
    · cases h
  · rintro ⟨es, pairs, rfl, hstands, rfl⟩
    refine map_eq_ok_iff.mpr ⟨pairs, collect_eq_ok_iff.mpr ?_, foldl_insertSchedule pairs⟩
    exact map_eq_map_iff_forall₂.mpr (hstands.imp fun f s hs => scheduleOf_eq_ok_iff.mpr hs)

section Fields

variable {entries : List (Value × Value)}

theorem readZone_eq_ok_iff {zone : String} :
    readField "timezone" default.timezone (textAt [.name "timezone"]) checkZone entries = .ok zone ↔
      Gives "timezone" default.timezone IsZone entries zone ∧ Zone.isName zone = true := by
  refine readField_eq_ok_iff_gives (p := fun name => Zone.isName name = true) normal_default.zone
    fun v => ?_
  simp only [textAt_eq_ok_iff, checkZone_eq_ok_iff]
  constructor
  · rintro ⟨name, htext, rfl, hname⟩
    exact ⟨htext, hname⟩
  · rintro ⟨htext, hname⟩
    exact ⟨zone, htext, rfl, hname⟩

theorem readLevel_eq_ok_iff {level : String} :
    readField "log_level" default.logLevel (textAt [.name "log_level"]) checkLevel entries =
        .ok level ↔
      Gives "log_level" default.logLevel IsLevel entries level ∧
        level ∈ Level.ranks.map (·.1) := by
  refine readField_eq_ok_iff_gives normal_default.level fun v => ?_
  simp only [textAt_eq_ok_iff, checkLevel_eq_ok_iff]
  constructor
  · rintro ⟨name, htext, hupper, hmem⟩
    exact ⟨⟨name, htext, hupper⟩, hmem⟩
  · rintro ⟨⟨name, htext, hupper⟩, hmem⟩
    exact ⟨name, htext, hupper, hmem⟩

theorem readSchedules_eq_ok_iff {schedules : List Schedule} :
    readField "schedules" default.schedules schedulesOf checkSchedules entries = .ok schedules ↔
      Gives "schedules" default.schedules AreSchedules entries schedules ∧ Valid schedules := by
  refine readField_eq_ok_iff_gives normal_default.schedules fun v => ?_
  simp only [schedulesOf_eq_ok_iff, checkSchedules_eq_ok_iff]
  constructor
  · rintro ⟨given, hstands, rfl, hvalid⟩
    exact ⟨hstands, hvalid⟩
  · rintro ⟨hstands, hvalid⟩
    exact ⟨schedules, hstands, rfl, hvalid⟩

theorem ofEntries_eq_ok_iff_describes {c : Config} :
    ofEntries entries = .ok c ↔ Describes entries c ∧ c.Normal := by
  rw [ofEntries_eq_ok_iff, readZone_eq_ok_iff, readLevel_eq_ok_iff, readSchedules_eq_ok_iff]
  constructor
  · rintro ⟨hkeys, ⟨hzone, hname⟩, ⟨hlevel, hmem⟩, hschedules, hvalid⟩
    exact ⟨⟨hkeys, hzone, hlevel, hschedules⟩, ⟨hname, hmem, hvalid⟩⟩
  · rintro ⟨⟨hkeys, hzone, hlevel, hschedules⟩, ⟨hname, hmem, hvalid⟩⟩
    exact ⟨hkeys, ⟨hzone, hname⟩, ⟨hlevel, hmem⟩, hschedules, hvalid⟩

end Fields

/-! ### What is kept -/

theorem Normal.isLevel {c : Config} (h : c.Normal) : IsLevel (.text c.logLevel) c.logLevel := by
  -- Letters of every script are put in upper case, but what is kept is a name of the table.
  obtain ⟨l, hl, hlevel⟩ := List.mem_map.mp h.level
  refine ⟨c.logLevel, rfl, ?_⟩
  rw [← hlevel]
  exact (Level.upper_of_mem_ranks hl).symm

theorem standsFor_texts (s : Schedule) : StandsFor (.text s.1, .list (s.2.map .text)) s := by
  refine ⟨rfl, s.2.map .text, rfl, ?_⟩
  rw [List.forall₂_map_left_iff, List.forall₂_same]
  exact fun text _ => rfl

theorem areSchedules_texts {schedules : List Schedule} (h : (schedules.map (·.1)).Nodup) :
    AreSchedules (.map (schedules.map fun s => (.text s.1, .list (s.2.map .text)))) schedules := by
  refine ⟨_, schedules, rfl, ?_, (entered_of_nodup id_eq_of_decide h).symm⟩
  rw [List.forall₂_map_left_iff, List.forall₂_same]
  exact fun s _ => standsFor_texts s

theorem Normal.describes_entries {c : Config} (h : c.Normal) : Describes c.entries c where
  keys := by simp [entries]
  timezone := Or.inr ⟨.text c.timezone, rfl, rfl⟩
  level := Or.inr ⟨.text c.logLevel, rfl, h.isLevel⟩
  schedules := Or.inr ⟨_, rfl, areSchedules_texts h.schedules.distinct.nodup_names⟩

/-- Checking is done once for all. Accepted data describe the configuration that they become, and its zone, level
and schedules are accepted in turn as data and kept as they are. -/
theorem accepted_again {entries : List (Value × Value)} {c : Config} (h : ofEntries entries = .ok c) :
    Describes entries c ∧ ofEntries c.entries = .ok c := by
  obtain ⟨hdescribes, hnormal⟩ := ofEntries_eq_ok_iff_describes.mp h
  exact ⟨hdescribes, ofEntries_eq_ok_iff_describes.mpr ⟨hnormal.describes_entries, hnormal⟩⟩

/-- Data that are not in the form in which they are kept: a level with a dotless `i`, bytes in the place of
texts, other collections in the place of lists, and a field that is left aside. -/
def shopEntries : List (Value × Value) :=
  [(.text "log_level", .text "ınfo"), (.text "owner", .null),
    (.text "schedules", .map
      [(.bytes [0x53, 0x68, 0x6f, 0x70], .tuple [.text "mon 9:00-17:00", .bytes [0x54, 0x75, 0x65]]),
        (.text "Market", .set [.text " sat"])]),
    (.text "timezone", .bytes [0x75, 0x54, 0x63])]

def shop : Config :=
  ⟨"uTc", "INFO", [("Shop", ["mon 9:00-17:00", "Tue"]), ("Market", [" sat"])]⟩

theorem shop_accepted_again :
    ofEntries shopEntries = .ok shop ∧ Describes shopEntries shop ∧
      ofEntries shop.entries = .ok shop := by
  have hshop : ofEntries shopEntries = .ok shop := eq_ok_of_toOption (by decide +kernel)
  exact ⟨hshop, accepted_again hshop⟩

end Config

end Timetable
