import CssAudit.Gate.Sanitize
import CssAudit.Proofs.Batch
import CssAudit.Proofs.Gate.Sanitize

/-!
# What counts as a danger

The search looks at a value as it is and in its normal form.  Both looks together
find exactly the values that hold a NUL character or, without those, a dangerous
pattern in any case: collapsing blanks cannot make a pattern that has none.  Every
finding is a matter of security.
-/

namespace CssAudit

namespace Gate

/-- A value with a NUL character, or whose lower-case form without those has a
dangerous pattern in it. -/
def IsDangerousValue (text : Text) : Prop :=
  nul ∈ text ∨ ∃ pattern ∈ dangerousPatterns,
    pattern.toList <:+: Text.lower (text.filter (· ≠ nul))

/-- A declaration that refuses its whole batch: its name comes to the dangerous
property, or its value is dangerous. -/
def IsHit (entry : Scalar × Datum) : Prop :=
  (∃ written, entry.1.toText = .ok written ∧ sanitizeName written = dangerousProperty) ∨
    ∃ text, Batch.valueText? entry.2 = .ok (some text) ∧ IsDangerousValue text

/-- The patterns have no blanks and no sigmas, so that neither collapsing nor the
end of a word can hide them. -/
theorem dangerousPatterns_plain {pattern : String} (member : pattern ∈ dangerousPatterns) :
    pattern.toList ≠ [] ∧ (∀ c ∈ pattern.toList, Text.isBlank c = false) ∧
      Text.SigmaFree pattern.toList := by
  have plain : ∀ pattern ∈ dangerousPatterns, pattern.toList ≠ [] ∧
      (pattern.toList.all fun c => !Text.isBlank c) = true ∧
      Text.SigmaFree pattern.toList := by
    decide
  obtain ⟨nonempty, solid, free⟩ := plain pattern member
  exact ⟨nonempty, fun c within => by simpa using List.all_eq_true.mp solid c within, free⟩

theorem holdsPattern_iff {text : Text} (absent : nul ∉ text) {pattern : String}
    (member : pattern ∈ dangerousPatterns) :
    holdsPattern text pattern = true ↔ pattern.toList <:+: Text.lower text := by
  obtain ⟨nonempty, solid, free⟩ := dangerousPatterns_plain member
  rw [holdsPattern, Bool.or_eq_true, Text.occursIn_eq_true_iff, Text.occursIn_eq_true_iff,
    sanitizeValue_eq_collapse absent]
  constructor
  · rintro (plain | collapsed)
    · exact plain
    · exact Text.infix_lower_of_infix_lower_collapse nonempty solid free collapsed
  · exact .inl

theorem valueDangers_eq_nil_iff (property text : Text) :
    valueDangers property text = [] ↔ ¬ IsDangerousValue text := by
  by_cases present : nul ∈ text
  · simp [valueDangers, IsDangerousValue, present]
  · rw [IsDangerousValue, filter_nul_eq_self present]
    simp only [valueDangers, List.elem_eq_mem, present, decide_false, Bool.false_eq_true,
      if_false, List.nil_append, List.map_eq_nil_iff, List.filter_eq_nil_iff, false_or]
    constructor
    · rintro missing ⟨pattern, member, within⟩
      exact missing pattern member ((holdsPattern_iff present member).mpr within)
    · intro missing pattern member found
      exact missing ⟨pattern, member, (holdsPattern_iff present member).mp found⟩

theorem kind_of_mem_valueDangers {property text : Text} {cause : Rejection}
    (member : cause ∈ valueDangers property text) : cause.kind = .security := by
  rw [valueDangers, List.mem_append] at member
  rcases member with byte | pattern
  · split at byte
    · rw [List.mem_singleton.mp byte]
      rfl
    · exact absurd byte List.not_mem_nil
  · obtain ⟨found, _, rfl⟩ := List.mem_map.mp pattern
    rfl

/-- What the search says of one declaration that can be read. -/
theorem entryDangers_spec {entry : Scalar × Datum} {written : Text} {text? : Option Text}
    (name_eq : entry.1.toText = .ok written)
    (value_eq : Batch.valueText? entry.2 = .ok text?) :
    ∃ found, entryDangers entry = .ok found ∧ (found = [] ↔ ¬ IsHit entry) ∧
      ∀ cause ∈ found, cause.kind = .security := by
  have hit_iff : IsHit entry ↔ sanitizeName written = dangerousProperty ∨
      ∃ text, text? = some text ∧ IsDangerousValue text := by
    rw [IsHit, name_eq, value_eq]
    simp
  have name_kind : ∀ cause ∈ (if sanitizeName written = dangerousProperty then
      [Rejection.dangerousName (sanitizeName written)] else []),
      cause.kind = .security := by
    intro cause member
    split at member
    · rw [List.mem_singleton.mp member]
      rfl
    · exact absurd member List.not_mem_nil
  rw [hit_iff]
  cases text? with
  | none =>
      refine ⟨_, by rw [entryDangers, name_eq, value_eq]; rfl, ?_, name_kind⟩
      by_cases dangerous : sanitizeName written = dangerousProperty <;> simp [dangerous]
  | some text =>
      refine ⟨_, by rw [entryDangers, name_eq, value_eq]; rfl, ?_, fun cause member => ?_⟩
      · rw [List.append_eq_nil_iff, valueDangers_eq_nil_iff]
        by_cases dangerous : sanitizeName written = dangerousProperty <;> simp [dangerous]
      · rcases List.mem_append.mp member with name | value
        · exact name_kind cause name
        · exact kind_of_mem_valueDangers value

/-- The search succeeds on every batch that can be read; it finds nothing exactly if
no declaration is a hit, and what it finds is a matter of security. -/
theorem dangers_spec {batch : Batch} (readable : batch.Readable) :
    ∃ found, dangers batch = .ok found ∧ (found = [] ↔ ∀ entry ∈ batch, ¬ IsHit entry) ∧
      ∀ cause ∈ found, cause.kind = .security := by
  have each : ∀ entry ∈ batch, ∃ found, entryDangers entry = .ok found ∧
      (found = [] ↔ ¬ IsHit entry) ∧ ∀ cause ∈ found, cause.kind = .security := by
    intro entry member
    obtain ⟨⟨written, name_eq⟩, ⟨text?, value_eq⟩⟩ := readable entry member
    exact entryDangers_spec name_eq value_eq
  obtain ⟨founds, ran⟩ := Batch.exists_mapM_eq_ok fun entry member =>
    (each entry member).imp fun _ spec => spec.1
  refine ⟨founds.flatten, by simp [dangers, ran, bind, Except.bind], ?_, ?_⟩
  · rw [List.flatten_eq_nil_iff]
    constructor
    · intro empty entry member
      obtain ⟨found, ok, spec, _⟩ := each entry member
      obtain ⟨result, result_mem, result_eq⟩ := Batch.exists_result_of_mapM ran member
      obtain rfl : found = result := Except.ok.inj (ok.symm.trans result_eq)
      exact spec.mp (empty found result_mem)
    · intro safe found member
      obtain ⟨entry, entry_mem, entry_eq⟩ := Batch.exists_item_of_mapM ran member
      obtain ⟨result, ok, spec, _⟩ := each entry entry_mem
      obtain rfl : found = result := Except.ok.inj (entry_eq.symm.trans ok)
      exact spec.mpr (safe entry entry_mem)
  · intro cause member
    obtain ⟨found, found_mem, cause_mem⟩ := List.mem_flatten.mp member
    obtain ⟨entry, entry_mem, entry_eq⟩ := Batch.exists_item_of_mapM ran found_mem
    obtain ⟨result, ok, _, kinds⟩ := each entry entry_mem
    obtain rfl : found = result := Except.ok.inj (entry_eq.symm.trans ok)
    exact kinds cause cause_mem

theorem readable_of_dangers {batch : Batch} {found : List Rejection}
    (searched : dangers batch = .ok found) : batch.Readable := by
  intro entry member
  obtain ⟨founds, ran, _⟩ := Batch.bind_eq_ok_iff.mp searched
  obtain ⟨result, _, result_eq⟩ := Batch.exists_result_of_mapM ran member
  obtain ⟨written, name_eq, rest⟩ := Batch.bind_eq_ok_iff.mp result_eq
  obtain ⟨text?, value_eq, _⟩ := Batch.bind_eq_ok_iff.mp rest
  exact ⟨⟨written, name_eq⟩, ⟨text?, value_eq⟩⟩

end Gate

end CssAudit
