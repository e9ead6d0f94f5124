import CssAudit.Gate.Validation
import CssAudit.Proofs.Gate.Acceptance
import CssAudit.Proofs.Gate.Danger
import CssAudit.Proofs.OrderedMap

/-!
# Which declarations survive

An entry is admitted as a declaration when its name is allowed and its value is
accepted, both in normal form.  A batch with a danger survives in nothing; from any
other batch exactly the admitted declarations survive, and their values are clean.
-/

namespace CssAudit

namespace Gate

/-- A declaration in which an entry survives, if its batch holds no danger. -/
structure Admits (entry : Scalar × Datum) (declaration : Text × Text) : Prop where
  name_eq : ∃ written, entry.1.toText = .ok written ∧
    sanitizeName written = declaration.1
  value_eq : ∃ text, Batch.valueText? entry.2 = .ok (some text) ∧
    sanitizeValue text = declaration.2
  allowed : listed allowedProperties declaration.1 = true
  accepted : (judge declaration.1
    (Value.parse declaration.1 declaration.2)).rejection = none

theorem Admits.unique {entry : Scalar × Datum} {first second : Text × Text}
    (first_admits : Admits entry first) (second_admits : Admits entry second) :
    first = second := by
  obtain ⟨written, written_eq, first_name⟩ := first_admits.name_eq
  obtain ⟨other, other_eq, second_name⟩ := second_admits.name_eq
  obtain ⟨text, text_eq, first_value⟩ := first_admits.value_eq
  obtain ⟨another, another_eq, second_value⟩ := second_admits.value_eq
  obtain rfl : written = other := Except.ok.inj (written_eq.symm.trans other_eq)
  obtain rfl : text = another :=
    Option.some.inj (Except.ok.inj (text_eq.symm.trans another_eq))
  exact Prod.ext (first_name.symm.trans second_name)
    (first_value.symm.trans second_value)

/-- A value as the gate lets it through: it is not empty, it is single-spaced, and it
has no NUL character, no dangerous pattern in any case, and no call of a URL. -/
structure IsClean (value : Text) : Prop where
  nonempty : value ≠ []
  nul_free : nul ∉ value
  spaced : Text.SingleSpaced value
  harmless : ∀ pattern ∈ dangerousPatterns, ¬ pattern.toList <:+: Text.lower value
  silent : ¬ Value.CallsUrl value

theorem harmless_sanitizeValue {text : Text} (safe : ¬ IsDangerousValue text) :
    ∀ pattern ∈ dangerousPatterns,
      ¬ pattern.toList <:+: Text.lower (sanitizeValue text) := by
  intro pattern member within
  obtain ⟨nonempty, solid, free⟩ := dangerousPatterns_plain member
  rw [sanitizeValue] at within
  exact safe (.inr ⟨pattern, member,
    Text.infix_lower_of_infix_lower_collapse nonempty solid free within⟩)

theorem Admits.text {entry : Scalar × Datum} {declaration : Text × Text}
    (admits : Admits entry declaration) :
    declaration.2 ≠ [] ∧ ¬ Value.CallsUrl declaration.2 := by
  obtain ⟨text, _, value_eq⟩ := admits.value_eq
  have trimmed : Text.trim declaration.2 = declaration.2 := by
    rw [← value_eq]
    exact (singleSpaced_sanitizeValue text).trim_eq
  have read := text_of_accepted admits.accepted
  rw [Value.parse_text, trimmed] at read
  exact read

theorem Admits.isClean {entry : Scalar × Datum} {declaration : Text × Text}
    (admits : Admits entry declaration) (safe : ¬ IsHit entry) :
    IsClean declaration.2 := by
  obtain ⟨nonempty, silent⟩ := admits.text
  obtain ⟨text, text_eq, value_eq⟩ := admits.value_eq
  have harmless : ¬ IsDangerousValue text := fun danger =>
    safe (.inr ⟨text, text_eq, danger⟩)
  rw [← value_eq] at nonempty silent ⊢
  exact {
    nonempty := nonempty
    nul_free := nul_not_mem_sanitizeValue text
    spaced := singleSpaced_sanitizeValue text
    harmless := harmless_sanitizeValue harmless
    silent := silent }

section Judging

variable {entry : Scalar × Datum} {written : Text} (name_eq : entry.1.toText = .ok written)
include name_eq

theorem Admits.name_of {declaration : Text × Text} (admits : Admits entry declaration) :
    sanitizeName written = declaration.1 := by
  obtain ⟨other, other_eq, same⟩ := admits.name_eq
  obtain rfl : written = other := Except.ok.inj (name_eq.symm.trans other_eq)
  exact same

theorem judgeEntry_of_not_allowed
    (foreign : listed allowedProperties (sanitizeName written) = false) :
    judgeEntry entry = .ok ⟨sanitizeName written, [],
      .reject (.propertyNotAllowed (sanitizeName written) written)⟩ := by
  rw [judgeEntry, name_eq]
  simp [bind, Except.bind, foreign]

theorem judgeEntry_of_allowed
    (allowed : listed allowedProperties (sanitizeName written) = true)
    {text? : Option Text} (value_eq : Batch.valueText? entry.2 = .ok text?) :
    judgeEntry entry = .ok (text?.elim
      ⟨sanitizeName written, [],
        .reject (.unusableValue (sanitizeName written) entry.2.kindName)⟩
      fun text => ⟨sanitizeName written, sanitizeValue text,
        judge (sanitizeName written)
          (Value.parse (sanitizeName written) (sanitizeValue text))⟩) := by
  rw [judgeEntry, name_eq, value_eq]
  cases text? <;> simp [bind, Except.bind, allowed]

/-- What becomes of an entry that can be read: it is refused for its form, or it
survives in the declaration it is admitted as. -/
theorem judgeEntry_spec {text? : Option Text}
    (value_eq : Batch.valueText? entry.2 = .ok text?) :
    ∃ outcome, judgeEntry entry = .ok outcome ∧ outcome.verdict.IsSchematic ∧
      ∀ declaration, outcome.accepted? = some declaration ↔ Admits entry declaration := by
  cases allowed : listed allowedProperties (sanitizeName written) with
  | false =>
      refine ⟨_, judgeEntry_of_not_allowed name_eq allowed, isSchematic_reject rfl,
        fun declaration => ?_⟩
      simp only [EntryOutcome.accepted?, Verdict.reject, reduceCtorEq, false_iff]
      intro admits
      rw [admits.name_of name_eq, admits.allowed] at allowed
      exact absurd allowed (by simp)
  | true =>
      refine ⟨_, judgeEntry_of_allowed name_eq allowed value_eq, ?_⟩
      cases text? with
      | none =>
          refine ⟨isSchematic_reject rfl, fun declaration => ?_⟩
          simp only [EntryOutcome.accepted?, Option.elim, Verdict.reject, reduceCtorEq,
            false_iff]
          intro admits
          obtain ⟨text, text_eq, _⟩ := admits.value_eq
          exact absurd (Except.ok.inj (value_eq.symm.trans text_eq)) (by simp)
      | some text =>
          refine ⟨isSchematic_judge _ _, fun declaration => ?_⟩
          constructor
          · intro survives
            unfold EntryOutcome.accepted? at survives
            split at survives
            · rename_i accepted
              rw [← Option.some.inj survives]
              exact ⟨⟨written, name_eq, rfl⟩, ⟨text, value_eq, rfl⟩, allowed, accepted⟩
            · exact absurd survives (by simp)
          · intro admits
            obtain ⟨other, other_eq, same⟩ := admits.value_eq
            obtain rfl : text = other :=
              Option.some.inj (Except.ok.inj (value_eq.symm.trans other_eq))
            simp only [EntryOutcome.accepted?, Option.elim, same, admits.name_of name_eq,
              admits.accepted]

end Judging

theorem readable_of_validate {batch : Batch} {strict : Bool} {result : Result}
    (ran : validate batch strict = .ok result) : batch.Readable := by
  obtain ⟨found, searched, _⟩ := Batch.bind_eq_ok_iff.mp ran
  exact readable_of_dangers searched

/-- A batch with a danger is refused for its dangers only. -/
theorem validate_of_hit {batch : Batch} (readable : batch.Readable) (strict : Bool)
    (hit : ∃ entry ∈ batch, IsHit entry) :
    ∃ found, validate batch strict = .ok { rejections := found } ∧ found ≠ [] ∧
      ∀ cause ∈ found, cause.kind = .security := by
  obtain ⟨found, searched, empty_iff, kinds⟩ := dangers_spec readable
  have nonempty : found ≠ [] := fun empty =>
    hit.elim fun entry spec => empty_iff.mp empty entry spec.1 spec.2
  refine ⟨found, ?_, nonempty, kinds⟩
  have kept : found.isEmpty = false := by simpa using nonempty
  simp [validate, searched, kept, bind, Except.bind]

theorem validate_of_safe {batch : Batch} (readable : batch.Readable) (strict : Bool)
    (safe : ∀ entry ∈ batch, ¬ IsHit entry) :
    ∃ outcomes, batch.mapM judgeEntry = .ok outcomes ∧
      validate batch strict = .ok (.ofOutcomes strict outcomes) := by
  obtain ⟨found, searched, empty_iff, _⟩ := dangers_spec readable
  obtain rfl : found = [] := empty_iff.mpr safe
  obtain ⟨outcomes, judged⟩ := Batch.exists_mapM_eq_ok fun entry member => by
    obtain ⟨⟨written, name_eq⟩, text?, value_eq⟩ := readable entry member
    exact (judgeEntry_spec name_eq value_eq).imp fun _ spec => spec.1
  exact ⟨outcomes, judged, by simp [validate, searched, judged, bind, Except.bind]⟩

/-- Where each outcome of a judged batch comes from. -/
theorem outcome_of_judged {batch : Batch} (readable : batch.Readable)
    {outcomes : List EntryOutcome} (judged : batch.mapM judgeEntry = .ok outcomes)
    {outcome : EntryOutcome} (member : outcome ∈ outcomes) :
    ∃ entry ∈ batch, outcome.verdict.IsSchematic ∧
      ∀ declaration, outcome.accepted? = some declaration ↔ Admits entry declaration := by
  obtain ⟨entry, entry_mem, entry_eq⟩ := Batch.exists_item_of_mapM judged member
  obtain ⟨⟨written, name_eq⟩, text?, value_eq⟩ := readable entry entry_mem
  obtain ⟨result, result_eq, schematic, spec⟩ := judgeEntry_spec name_eq value_eq
  obtain rfl : outcome = result := Except.ok.inj (entry_eq.symm.trans result_eq)
  exact ⟨entry, entry_mem, schematic, spec⟩

theorem kind_of_mem_rejections {batch : Batch} (readable : batch.Readable)
    {outcomes : List EntryOutcome} (judged : batch.mapM judgeEntry = .ok outcomes)
    {strict : Bool} {cause : Rejection}
    (member : cause ∈ (Result.ofOutcomes strict outcomes).rejections) :
    cause.kind ≠ .security := by
  rcases List.mem_append.mp member with refused | strictly
  · obtain ⟨outcome, outcome_mem, cause_eq⟩ := List.mem_filterMap.mp refused
    obtain ⟨_, _, schematic, _⟩ := outcome_of_judged readable judged outcome_mem
    rw [schematic cause cause_eq]
    decide
  · unfold strictRejection at strictly
    split at strictly
    · rw [List.mem_singleton.mp strictly]
      simp [Rejection.kind]
    · exact absurd strictly List.not_mem_nil

theorem admits_of_mem_validated {batch : Batch} (readable : batch.Readable)
    {outcomes : List EntryOutcome} (judged : batch.mapM judgeEntry = .ok outcomes)
    {strict : Bool} {declaration : Text × Text}
    (member : declaration ∈ (Result.ofOutcomes strict outcomes).validated) :
    ∃ entry ∈ batch, Admits entry declaration := by
  obtain ⟨outcome, outcome_mem, survives⟩ :=
    List.mem_filterMap.mp (OrderedMap.mem_of_mem_ofList member)
  obtain ⟨entry, entry_mem, _, spec⟩ := outcome_of_judged readable judged outcome_mem
  exact ⟨entry, entry_mem, (spec declaration).mp survives⟩

/-- The gate fails closed.  A batch that can be read and holds a hit comes to nothing
but refusals for security.  Every other batch is refused for its form at most, and the
declarations that survive have allowed names and clean values. -/
theorem validate_fails_closed {batch : Batch} (readable : batch.Readable) (strict : Bool) :
    ∃ result, validate batch strict = .ok result ∧
      ((∃ entry ∈ batch, IsHit entry) →
        result.validated = [] ∧ result.warnings = [] ∧ result.rejections ≠ [] ∧
          (∀ cause ∈ result.rejections, cause.kind = .security) ∧
          validateOrRefuse batch strict = .error (.security result)) ∧
      ((∀ entry ∈ batch, ¬ IsHit entry) →
        (∀ cause ∈ result.rejections, cause.kind ≠ .security) ∧
          ∀ declaration ∈ result.validated,
            listed allowedProperties declaration.1 = true ∧ IsClean declaration.2) := by
  by_cases hit : ∃ entry ∈ batch, IsHit entry
  · obtain ⟨found, validated, nonempty, kinds⟩ := validate_of_hit readable strict hit
    refine ⟨_, validated, fun _ => ⟨rfl, rfl, nonempty, kinds, ?_⟩, fun safe => ?_⟩
    · obtain ⟨cause, member⟩ := List.exists_mem_of_ne_nil found nonempty
      have refused : Result.securityRejected { rejections := found } = true :=
        List.any_eq_true.mpr ⟨cause, member, decide_eq_true (kinds cause member)⟩
      rw [validateOrRefuse, validated]
      exact if_pos refused
    · obtain ⟨entry, member, dangerous⟩ := hit
      exact absurd dangerous (safe entry member)
  · have safe : ∀ entry ∈ batch, ¬ IsHit entry := fun entry member dangerous =>
      hit ⟨entry, member, dangerous⟩
    obtain ⟨outcomes, judged, validated⟩ := validate_of_safe readable strict safe
    refine ⟨_, validated, fun dangerous => absurd dangerous hit, fun _ => ⟨?_, ?_⟩⟩
    · exact fun _ member => kind_of_mem_rejections readable judged member
    · intro declaration member
      obtain ⟨entry, entry_mem, admits⟩ := admits_of_mem_validated readable judged member
      exact ⟨admits.allowed, admits.isClean (safe entry entry_mem)⟩

/-- A pattern that a NUL character splits refuses the harmless declaration beside it. -/
theorem validate_fails_closed_on_split_pattern :
    (Batch.ofTexts [("color".toList, "red".toList),
      ("width".toList, "java\x00script:".toList)]).Readable ∧
    ∃ result, validate (Batch.ofTexts [("color".toList, "red".toList),
        ("width".toList, "java\x00script:".toList)]) true = .ok result ∧
      result.validated = [] ∧ result.rejections ≠ [] ∧
        ∀ cause ∈ result.rejections, cause.kind = .security := by
  have readable := Batch.readable_ofTexts [("color".toList, "red".toList),
    ("width".toList, "java\x00script:".toList)]
  obtain ⟨result, validated, on_hit, _⟩ := validate_fails_closed readable true
  obtain ⟨empty, _, refused, kinds, _⟩ := on_hit ⟨_,
    List.mem_cons_of_mem _ List.mem_cons_self, .inr ⟨_, rfl, .inl (by decide)⟩⟩
  exact ⟨readable, result, validated, empty, refused, kinds⟩

end Gate

end CssAudit
