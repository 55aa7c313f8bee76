import Timetable.Command
import Timetable.Proofs.Except
import Timetable.Proofs.Value

/-!
What stands at the root of a file. Main statement: a file is loaded as a mapping of named fields,
and what other roots lead to; the roots are told that make the load break its contract.
-/
namespace Timetable

namespace Config

/-- The value that the text of a file stands for. -/
def rootValue (text : String) : Except Yaml.Error Value :=
  Yaml.read (withLineFeeds text.toList)

/-- All fields have a name. -/
def AreNamed (entries : List (Value × Value)) : Prop :=
  ∀ f ∈ entries, ∃ s, f.1 = .text s

/-- What is wrong is a value: that of the document, or one in it. -/
inductive LoadError.IsOfValue : LoadError → Prop where
  | document {e : Yaml.Error} (h : Command.isForeseenInDocument e = true) : IsOfValue (.document e)
  | notMapping : IsOfValue .notMapping
  | invalid (issues : List Issue) : IsOfValue (.data (.invalid issues))

variable {text : String} {entries : List (Value × Value)} {c : Config}

/-! ### Fields -/

theorem ofEntries_nil : ofEntries [] = .ok .default := rfl

/-- Data without a name for some field are refused as a whole; else each issue is one of a value. -/
theorem ofEntries_cases (entries : List (Value × Value)) :
    (¬AreNamed entries ∧ ofEntries entries = .error .fieldName) ∨
      AreNamed entries ∧ ((∃ c, ofEntries entries = .ok c) ∨
        ∃ issues, ofEntries entries = .error (.invalid issues)) := by
  rw [ofEntries]
  cases hnamed : entries.all _ with
  | false =>
      refine Or.inl ⟨fun hnames => ?_, rfl⟩
      obtain ⟨f, hf, hkey⟩ := List.all_eq_false.mp hnamed
      obtain ⟨s, hs⟩ := hnames f hf
      simp [hs] at hkey
  | true =>
      refine Or.inr ⟨fun f hf => ?_, ?_⟩
      · have hkey := List.all_eq_true.mp hnamed f hf
        split at hkey
        · next s hs => exact ⟨s, hs⟩
        · cases hkey
      · rw [if_neg (by simp)]
        simp only
        split
        · exact Or.inl ⟨_, rfl⟩
        · exact Or.inr ⟨_, rfl⟩

/-! ### Roots -/

theorem ofText_of_error {e : Yaml.Error} (h : rootValue text = .error e) :
    ofText text = .error (.document e) := by
  rw [rootValue] at h
  rw [ofText, h]

theorem ofText_of_countsAsAbsent {v : Value} (h : rootValue text = .ok v)
    (habsent : v.CountsAsAbsent) : ofText text = .ok .default := by
  rw [rootValue] at h
  rw [ofText, h]
  simp only [Value.isFalsy_iff.mpr habsent, if_true, ofEntries_nil]
  rfl

theorem ofText_of_map {es : List (Value × Value)} (h : rootValue text = .ok (.map es)) :
    ofText text = (ofEntries es).mapError .data := by
  by_cases hnil : es = []
  · obtain rfl := hnil
    exact ofText_of_countsAsAbsent h .map
  · have hsome : ¬(Value.map es).isFalsy = true := by simpa [Value.isFalsy] using hnil
    rw [rootValue] at h
    rw [ofText, h]
    simp only [if_neg hsome]

theorem ofText_of_other {v : Value} (h : rootValue text = .ok v) (habsent : ¬v.CountsAsAbsent)
    (hmap : ∀ es, v ≠ .map es) : ofText text = .error .notMapping := by
  rw [rootValue] at h
  rw [ofText, h]
  simp only [if_neg (mt Value.isFalsy_iff.mp habsent)]

/-- How a file is loaded whose root is a mapping. -/
theorem ofText_map_cases {es : List (Value × Value)} (h : rootValue text = .ok (.map es)) :
    (¬AreNamed es ∧ ofText text = .error (.data .fieldName)) ∨
      AreNamed es ∧ ((∃ c, ofText text = .ok c) ∨
        ∃ issues, ofText text = .error (.data (.invalid issues))) := by
  rw [ofText_of_map h]
  rcases ofEntries_cases es with ⟨hnot, heq⟩ | ⟨hnamed, ⟨c, heq⟩ | ⟨issues, heq⟩⟩
  · exact Or.inl ⟨hnot, by rw [heq]; rfl⟩
  · exact Or.inr ⟨hnamed, Or.inl ⟨c, by rw [heq]; rfl⟩⟩
  · exact Or.inr ⟨hnamed, Or.inr ⟨issues, by rw [heq]; rfl⟩⟩

/-! ### The contract of a load -/

/-- The contract of a load: it gives a configuration only for a file without content or with a
mapping, and its errors are those of values. -/
structure KeepsContract (text : String) : Prop where
  root : ∀ c, ofText text = .ok c → ∃ v, rootValue text = .ok v ∧ (v = .null ∨ ∃ es, v = .map es)
  error : ∀ e, ofText text = .error e → e.IsOfValue

/-- What a root has to be for the contract: of the values that count as absent only none at all, and
in a mapping all fields named; and a document that is not readable has to be wrong in a way that is
foreseen. -/
structure AllowsContract (root : Except Yaml.Error Value) : Prop where
  absent : ∀ v, root = .ok v → v.CountsAsAbsent → v = .null ∨ ∃ es, v = .map es
  named : ∀ es, root = .ok (.map es) → AreNamed es
  readable : ∀ e, root = .error e → Command.isForeseenInDocument e = true

theorem keepsContract_of_error {e : LoadError} (hload : ofText text = .error e) (h : e.IsOfValue) :
    KeepsContract text := by
  constructor
  · intro c hc
    rw [hload] at hc
    cases hc
  · intro e' he
    rw [hload] at he
    cases he
    exact h

theorem keepsContract_of_ok {v : Value} (hload : ofText text = .ok c)
    (hroot : rootValue text = .ok v) (h : v = .null ∨ ∃ es, v = .map es) : KeepsContract text := by
  constructor
  · exact fun _ _ => ⟨v, hroot, h⟩
  · intro e he
    rw [hload] at he
    cases he

theorem keepsContract_of_allowsContract (h : AllowsContract (rootValue text)) :
    KeepsContract text := by
  cases hroot : rootValue text with
  | error d => exact keepsContract_of_error (ofText_of_error hroot) (.document (h.readable d hroot))
  | ok v =>
      -- A mapping is loaded by its fields, any other root by whether it counts as absent.
      by_cases hmap : ∃ es, v = .map es
      · obtain ⟨es, rfl⟩ := hmap
        rcases ofText_map_cases hroot with ⟨hnot, -⟩ | ⟨-, ⟨c, hload⟩ | ⟨issues, hload⟩⟩
        · exact absurd (h.named es hroot) hnot
        · exact keepsContract_of_ok hload hroot (Or.inr ⟨es, rfl⟩)
        · exact keepsContract_of_error hload (.invalid issues)
      · by_cases habsent : v.CountsAsAbsent
        · exact keepsContract_of_ok (ofText_of_countsAsAbsent hroot habsent) hroot
            (h.absent v hroot habsent)
        · have hother : ∀ es, v ≠ .map es := fun es hes => hmap ⟨es, hes⟩
          exact keepsContract_of_error (ofText_of_other hroot habsent hother) .notMapping

theorem allowsContract_of_keepsContract (h : KeepsContract text) :
    AllowsContract (rootValue text) := by
  constructor
  · intro v hroot habsent
    obtain ⟨v', hroot', hshape⟩ := h.root _ (ofText_of_countsAsAbsent hroot habsent)
    rw [hroot] at hroot'
    exact Except.ok.inj hroot' ▸ hshape
  · intro es hroot
    rcases ofText_map_cases hroot with ⟨-, hload⟩ | ⟨hnamed, -⟩
    · cases h.error _ hload
    · exact hnamed
  · intro d hroot
    cases h.error _ (ofText_of_error hroot) with
    | document hforeseen => exact hforeseen

theorem rootValue_emptyList : rootValue "[]\n" = .ok (.list []) := by
  obtain ⟨v, hroot, hshape⟩ : ∃ v, rootValue "[]\n" = .ok v ∧
      (v.kind == "list" && v.isFalsy) = true :=
    exists_of_toOption_any (by decide +kernel)
  simp only [Bool.and_eq_true, beq_iff_eq, Value.isFalsy_iff] at hshape
  obtain ⟨hkind, habsent⟩ := hshape
  cases habsent with
  | list => exact hroot
  | _ => exact absurd hkind (by simp [Value.kind])

theorem exists_map_of_kind {v : Value} (h : v.kind = "dict") : ∃ es, v = .map es := by
  cases v with
  | map es => exact ⟨es, rfl⟩
  | clock t form => cases form <;> exact absurd h (by simp [Value.kind])
  | _ => exact absurd h (by simp [Value.kind])

/-- A field with a number for a name. -/
theorem exists_rootValue_numbered :
    ∃ es, rootValue "1: a\n" = .ok (.map es) ∧ ¬AreNamed es := by
  obtain ⟨v, hroot, hkind⟩ : ∃ v, rootValue "1: a\n" = .ok v ∧ (v.kind == "dict") = true :=
    exists_of_toOption_any (by decide +kernel)
  obtain ⟨es, rfl⟩ := exists_map_of_kind (eq_of_beq hkind)
  refine ⟨es, hroot, fun hnamed => ?_⟩
  have hunforeseen : (ofText "1: a\n").mapError Command.isForeseenInFile = .error false := by
    decide +kernel
  rcases ofText_map_cases hroot with ⟨hnot, -⟩ | ⟨-, ⟨c, hload⟩ | ⟨issues, hload⟩⟩
  · exact hnot hnamed
  · rw [hload] at hunforeseen
    cases hunforeseen
  · rw [hload] at hunforeseen
    cases hunforeseen

/-- A file is loaded by its root. The contract is kept exactly for the roots that allow it. The
others are loaded in breach of it: what counts as absent without being none gives the configuration
without data, as if the file were empty, and a mapping in which a field has no name ends in an error
that is none of a value. A root that is neither absent nor a mapping is refused. -/
theorem load_ends_by_root (text : String) :
    (KeepsContract text ↔ AllowsContract (rootValue text)) ∧
    (∀ v, rootValue text = .ok v → v.CountsAsAbsent → ofText text = .ok .default) ∧
    (∀ v, rootValue text = .ok v → ¬v.CountsAsAbsent → (∀ es, v ≠ .map es) →
      ofText text = .error .notMapping) ∧
    ∀ es, rootValue text = .ok (.map es) →
      (¬AreNamed es ↔ ofText text = .error (.data .fieldName)) := by
  refine ⟨⟨allowsContract_of_keepsContract, keepsContract_of_allowsContract⟩,
    fun v => ofText_of_countsAsAbsent, fun v => ofText_of_other, fun es hroot => ?_⟩
  rcases ofText_map_cases hroot with ⟨hnot, hload⟩ | ⟨hnamed, ⟨c, hload⟩ | ⟨issues, hload⟩⟩
  · exact iff_of_true hnot hload
  · refine iff_of_false (not_not_intro hnamed) ?_
    rw [hload]
    rintro ⟨⟩
  · refine iff_of_false (not_not_intro hnamed) ?_
    rw [hload]
    rintro ⟨⟩

/-- An empty list at the root is loaded as if the file were empty, and a field with a number for a
name ends in an error that is none of a value. -/
theorem odd_roots_are_loaded :
    ofText "[]\n" = .ok .default ∧ ofText "1: a\n" = .error (.data .fieldName) := by
  obtain ⟨-, habsent, -, -⟩ := load_ends_by_root "[]\n"
  obtain ⟨-, -, -, hnamed⟩ := load_ends_by_root "1: a\n"
  obtain ⟨es, hroot, hnot⟩ := exists_rootValue_numbered
  exact ⟨habsent _ rootValue_emptyList .list, (hnamed es hroot).mp hnot⟩

/-- Both documents are readable, and neither load keeps the contract. -/
theorem exists_broken_contracts :
    (∃ v, rootValue "[]\n" = .ok v) ∧ ¬KeepsContract "[]\n" ∧
      (∃ v, rootValue "1: a\n" = .ok v) ∧ ¬KeepsContract "1: a\n" := by
  obtain ⟨es, hroot, hnot⟩ := exists_rootValue_numbered
  refine ⟨⟨_, rootValue_emptyList⟩, fun h => ?_, ⟨_, hroot⟩, fun h => ?_⟩
  · have hallows := allowsContract_of_keepsContract h
    rcases hallows.absent _ rootValue_emptyList .list with hnull | ⟨es, hmap⟩
    · cases hnull
    · cases hmap
  · exact hnot ((allowsContract_of_keepsContract h).named es hroot)

end Config

end Timetable
