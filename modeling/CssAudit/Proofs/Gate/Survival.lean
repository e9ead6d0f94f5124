import CssAudit.Gate.InlineStyle
import CssAudit.Proofs.Gate.Admission

/-!
# Entries on their own

An inline style validates every entry as a batch of its own.  Such a batch comes to
one declaration or to a refusal, and what survives is accepted again.  Whether the
gate accepts a value of an allowed property is a matter of dangers and of the verdict
on its normal form, which free-form properties reduce to harmless tokens.
-/

namespace CssAudit

namespace Gate

/-- An entry on its own survives in a declaration. -/
structure Survives (entry : Scalar × Datum) (declaration : Text × Text) : Prop where
  safe : ¬ IsHit entry
  admits : Admits entry declaration

theorem Survives.readable {entry : Scalar × Datum} {declaration : Text × Text}
    (survives : Survives entry declaration) : Batch.Readable [entry] := by
  intro other single
  rw [List.mem_singleton.mp single]
  obtain ⟨written, name_eq, _⟩ := survives.admits.name_eq
  obtain ⟨text, value_eq, _⟩ := survives.admits.value_eq
  exact ⟨⟨written, name_eq⟩, ⟨some text, value_eq⟩⟩

theorem Survives.isClean {entry : Scalar × Datum} {declaration : Text × Text}
    (survives : Survives entry declaration) : IsClean declaration.2 :=
  survives.admits.isClean survives.safe

theorem Survives.trimmed {entry : Scalar × Datum} {declaration : Text × Text}
    (survives : Survives entry declaration) : Text.trim declaration.2 = declaration.2 :=
  survives.isClean.spaced.trim_eq

theorem Survives.sanitizeValue_eq {name value : Text} {declaration : Text × Text}
    (survives : Survives (.text name, .text value) declaration) :
    sanitizeValue value = declaration.2 := by
  obtain ⟨text, text_eq, same⟩ := survives.admits.value_eq
  obtain rfl : value = text := Option.some.inj (Except.ok.inj text_eq)
  exact same

/-- An entry on its own either passes as the declaration it survives in, or is
refused. -/
theorem validate_singleton {entry : Scalar × Datum} (readable : Batch.Readable [entry]) :
    ∃ result, validate [entry] false = .ok result ∧
      ((∃ declaration, Survives entry declaration ∧ result.rejections = [] ∧
          result.validated = [declaration]) ∨
        (∀ declaration, ¬ Survives entry declaration) ∧ result.rejections ≠ []) := by
  by_cases hit : IsHit entry
  · obtain ⟨found, validated, nonempty, _⟩ :=
      validate_of_hit readable false ⟨entry, List.mem_cons_self, hit⟩
    exact ⟨_, validated, .inr ⟨fun _ survives => survives.safe hit, nonempty⟩⟩
  · obtain ⟨outcomes, judged, validated⟩ := validate_of_safe readable false
      fun other single => by rwa [List.mem_singleton.mp single]
    obtain ⟨⟨written, name_eq⟩, text?, value_eq⟩ := readable entry List.mem_cons_self
    obtain ⟨outcome, outcome_eq, _, spec⟩ := judgeEntry_spec name_eq value_eq
    have ran : [entry].mapM judgeEntry = .ok [outcome] :=
      Batch.mapM_eq_ok_iff.mpr (.cons outcome_eq .nil)
    obtain rfl : outcomes = [outcome] := Except.ok.inj (judged.symm.trans ran)
    refine ⟨_, validated, ?_⟩
    cases refused : outcome.verdict.rejection with
    | none =>
        have accepted : outcome.accepted? = some (outcome.name, outcome.value) := by
          simp [EntryOutcome.accepted?, refused]
        refine .inl ⟨_, ⟨hit, (spec _).mp accepted⟩, ?_, ?_⟩
        · simp [Result.ofOutcomes, strictRejection, refused]
        · simp [Result.ofOutcomes, accepted, OrderedMap.ofList, OrderedMap.insertAll,
            OrderedMap.insert]
    | some cause =>
        refine .inr ⟨fun declaration survives => ?_, by simp [Result.ofOutcomes, refused]⟩
        have accepted := (spec declaration).mpr survives.admits
        simp [EntryOutcome.accepted?, refused] at accepted

theorem passing_of_survives {entry : Scalar × Datum} {declaration : Text × Text}
    (survives : Survives entry declaration) : passing entry = .ok [declaration] := by
  obtain ⟨result, validated, passes | fails⟩ := validate_singleton survives.readable
  · obtain ⟨other, other_survives, accepted, shape⟩ := passes
    have same := other_survives.admits.unique survives.admits
    simp [passing, validated, bind, Except.bind, Result.ok, accepted, shape, same]
  · exact absurd survives (fails.1 declaration)

/-- What passes of an entry is nothing or the declaration it survives in. -/
theorem passing_cases {entry : Scalar × Datum} {passed : List (Text × Text)}
    (ran : passing entry = .ok passed) :
    passed = [] ∨ ∃ declaration, passed = [declaration] ∧ Survives entry declaration := by
  obtain ⟨result, validated, shape⟩ := Batch.bind_eq_ok_iff.mp ran
  obtain ⟨other, again, passes | fails⟩ :=
    validate_singleton (readable_of_validate validated)
  · obtain ⟨survivor, survives, accepted, survivor_eq⟩ := passes
    obtain rfl : result = other := Except.ok.inj (validated.symm.trans again)
    obtain rfl : [survivor] = passed := by
      simpa [Result.ok, accepted, survivor_eq] using shape
    exact .inr ⟨survivor, rfl, survives⟩
  · obtain rfl : result = other := Except.ok.inj (validated.symm.trans again)
    obtain rfl : [] = passed := by simpa [Result.ok, fails.2] using shape
    exact .inl rfl

theorem survives_of_mem_passing {entry : Scalar × Datum} {passed : List (Text × Text)}
    (ran : passing entry = .ok passed) {declaration : Text × Text}
    (member : declaration ∈ passed) : Survives entry declaration := by
  rcases passing_cases ran with rfl | ⟨survivor, rfl, survives⟩
  · exact absurd member List.not_mem_nil
  · rw [List.mem_singleton.mp member]
    exact survives

/-- Whether the gate accepts a declaration: on its own it is validated without a
rejection. -/
def Accepts (declaration : Text × Text) : Prop :=
  ∃ result, validate (Batch.ofTexts [declaration]) false = .ok result ∧
    result.rejections = []

theorem accepts_iff_survives {declaration : Text × Text} :
    Accepts declaration ↔
      ∃ survivor, Survives (.text declaration.1, .text declaration.2) survivor := by
  obtain ⟨result, validated, outcome⟩ :=
    validate_singleton (Batch.readable_ofTexts [declaration])
  constructor
  · rintro ⟨other, again, accepted⟩
    obtain rfl : result = other := Except.ok.inj (validated.symm.trans again)
    rcases outcome with ⟨survivor, survives, _⟩ | ⟨_, refused⟩
    · exact ⟨survivor, survives⟩
    · exact absurd accepted refused
  · rintro ⟨survivor, survives⟩
    rcases outcome with ⟨_, _, accepted, _⟩ | ⟨none, _⟩
    · exact ⟨result, validated, accepted⟩
    · exact absurd survives (none survivor)

section Allowed

variable {name : Text} (allowed : listed allowedProperties name = true)
include allowed

theorem isHit_text_iff {value : Text} :
    IsHit (.text name, .text value) ↔ IsDangerousValue value := by
  have harmless : sanitizeName name ≠ dangerousProperty := by
    rw [sanitizeName_eq_self (name_of_allowed allowed).2]
    rintro rfl
    exact absurd allowed (by decide +kernel)
  simp [IsHit, Scalar.toText, Batch.valueText?, harmless]

theorem survives_text_iff {value : Text} {survivor : Text × Text} :
    Survives (.text name, .text value) survivor ↔
      survivor = (name, sanitizeValue value) ∧ ¬ IsDangerousValue value ∧
        (judge name (Value.parse name (sanitizeValue value))).rejection = none := by
  have name_fixed := sanitizeName_eq_self (name_of_allowed allowed).2
  constructor
  · rintro ⟨safe, ⟨⟨written, name_eq, same_name⟩, ⟨text, value_eq, same_value⟩, _, accepted⟩⟩
    obtain rfl : name = written := Except.ok.inj name_eq
    obtain rfl : value = text := Option.some.inj (Except.ok.inj value_eq)
    obtain rfl : survivor = (name, sanitizeValue value) :=
      Prod.ext (same_name.symm.trans name_fixed) same_value.symm
    exact ⟨rfl, fun danger => safe ((isHit_text_iff allowed).mpr danger), accepted⟩
  · rintro ⟨rfl, safe, accepted⟩
    exact ⟨fun hit => safe ((isHit_text_iff allowed).mp hit),
      ⟨⟨name, rfl, name_fixed⟩, ⟨value, rfl, rfl⟩, allowed, accepted⟩⟩

/-- A value of an allowed property is accepted if it holds no danger and the verdict
on its normal form is favorable. -/
theorem accepts_iff_judge {value : Text} :
    Accepts (name, value) ↔ ¬ IsDangerousValue value ∧
      (judge name (Value.parse name (sanitizeValue value))).rejection = none := by
  rw [accepts_iff_survives]
  simp only [survives_text_iff allowed, exists_eq_left]

end Allowed

/-- What survives is accepted as it stands, and survives in itself. -/
theorem Survives.again {entry : Scalar × Datum} {declaration : Text × Text}
    (survives : Survives entry declaration) :
    Survives (.text declaration.1, .text declaration.2) declaration := by
  obtain ⟨text, _, value_eq⟩ := survives.admits.value_eq
  have fixed : sanitizeValue declaration.2 = declaration.2 := by
    rw [← value_eq, sanitizeValue_sanitizeValue]
  have clean := survives.isClean
  rw [survives_text_iff survives.admits.allowed, fixed]
  refine ⟨rfl, ?_, survives.admits.accepted⟩
  rintro (byte | ⟨pattern, member, within⟩)
  · exact clean.nul_free byte
  · rw [filter_nul_eq_self clean.nul_free] at within
    exact clean.harmless pattern member within

theorem Survives.accepts {entry : Scalar × Datum} {declaration : Text × Text}
    (survives : Survives entry declaration) : Accepts declaration :=
  accepts_iff_survives.mpr ⟨declaration, survives.again⟩

/-- A value in which a free-form property finds no fault: no dangerous pattern in any
case, and, in its normal form, no call of a URL and harmless tokens only. -/
structure IsHarmless (value : Text) : Prop where
  pattern_free : ∀ pattern ∈ dangerousPatterns, ¬ pattern.toList <:+: Text.lower value
  silent : ¬ Value.CallsUrl (sanitizeValue value)
  tokens : ∀ token ∈ Value.splitTopLevel (sanitizeValue value), IsHarmlessToken token

theorem parse_of_isFreeForm {name : Text} (allowed : listed allowedProperties name = true)
    (free : isFreeForm name = true) (raw : Text) :
    Value.parse name raw = Value.ofTokens (Text.trim raw) := by
  have plain : Value.isColorProperty name = false := by
    rw [Value.isColorProperty, lower_eq_self_of_isNameChar (name_of_allowed allowed).2]
    exact takesColor_of_isFreeForm free
  simp [Value.parse, plain]

theorem accepts_iff_isHarmless {name value : Text}
    (allowed : listed allowedProperties name = true) (free : isFreeForm name = true)
    (absent : nul ∉ value) (nonempty : sanitizeValue value ≠ []) :
    Accepts (name, value) ↔ IsHarmless value := by
  have trimmed := (singleSpaced_sanitizeValue value).trim_eq
  rw [accepts_iff_judge allowed, parse_of_isFreeForm allowed free, trimmed,
    judge_ofTokens_accepts_iff free trimmed, IsDangerousValue, filter_nul_eq_self absent]
  constructor
  · rintro ⟨safe, _, silent, tokens⟩
    exact ⟨fun pattern member within => safe (.inr ⟨pattern, member, within⟩), silent, tokens⟩
  · rintro ⟨pattern_free, silent, tokens⟩
    refine ⟨?_, nonempty, silent, tokens⟩
    rintro (byte | ⟨pattern, member, within⟩)
    · exact absent byte
    · exact pattern_free pattern member within

end Gate

end CssAudit
