import CssAudit.Proofs.Gate.Survival

/-!
# Validation is a projection

Whatever survives a validation survives in itself, whether the batch was validated
strictly or not.  Validating the survivors of a batch a second time therefore refuses
nothing and leaves the same declarations in the same order.
-/

namespace CssAudit

namespace Gate

theorem Survives.outcome {declaration : Text × Text}
    (survives : Survives (.text declaration.1, .text declaration.2) declaration)
    {outcome : EntryOutcome}
    (judged : judgeEntry (.text declaration.1, .text declaration.2) = .ok outcome) :
    outcome.accepted? = some declaration ∧ outcome.verdict.rejection = none := by
  obtain ⟨other, other_eq, _, spec⟩ :=
    @judgeEntry_spec (.text declaration.1, .text declaration.2) _ rfl _ rfl
  obtain rfl : outcome = other := Except.ok.inj (judged.symm.trans other_eq)
  have accepted := (spec declaration).mpr survives.admits
  refine ⟨accepted, ?_⟩
  cases refused : outcome.verdict.rejection with
  | none => rfl
  | some cause => simp [EntryOutcome.accepted?, refused] at accepted

section Survivors

variable {entries : OrderedMap Text Text}
  (survive : ∀ entry ∈ entries, Survives (.text entry.1, .text entry.2) entry)
include survive

theorem outcomes_of_survivors {outcomes : List EntryOutcome}
    (judged : (Batch.ofTexts entries).mapM judgeEntry = .ok outcomes) :
    outcomes.filterMap (·.accepted?) = entries ∧
      outcomes.filterMap (·.verdict.rejection) = [] := by
  rw [Batch.mapM_eq_ok_iff, Batch.ofTexts, List.forall₂_map_left_iff] at judged
  induction judged with
  | nil => exact ⟨rfl, rfl⟩
  | @cons entry outcome entries outcomes first _ ih =>
      obtain ⟨entry_survives, others_survive⟩ := List.forall_mem_cons.mp survive
      obtain ⟨accepted, unrefused⟩ := entry_survives.outcome first
      obtain ⟨same, none⟩ := ih others_survive
      constructor
      · rw [List.filterMap_cons_some accepted, same]
      · simpa [unrefused] using none

/-- Declarations that survive in themselves are validated without a rejection, and
come out as they went in. -/
theorem validate_of_survivors (distinct : OrderedMap.Distinct entries) :
    ∃ result, validate (Batch.ofTexts entries) false = .ok result ∧
      result.rejections = [] ∧ result.validated = entries := by
  have safe : ∀ entry ∈ Batch.ofTexts entries, ¬ IsHit entry := by
    intro entry member
    obtain ⟨source, source_mem, rfl⟩ := List.mem_map.mp member
    exact (survive source source_mem).safe
  obtain ⟨outcomes, judged, validated⟩ :=
    validate_of_safe (Batch.readable_ofTexts entries) false safe
  obtain ⟨accepted, unrefused⟩ := outcomes_of_survivors survive judged
  refine ⟨_, validated, ?_, ?_⟩
  · simp [Result.ofOutcomes, unrefused, strictRejection]
  · simp [Result.ofOutcomes, accepted, OrderedMap.ofList_eq_self distinct]

end Survivors

/-- What a validation leaves has each name once, and survives in itself. -/
theorem validated_spec {batch : Batch} {strict : Bool} {result : Result}
    (ran : validate batch strict = .ok result) :
    OrderedMap.Distinct result.validated ∧ ∀ declaration ∈ result.validated,
      Survives (.text declaration.1, .text declaration.2) declaration := by
  have readable := readable_of_validate ran
  by_cases hit : ∃ entry ∈ batch, IsHit entry
  · obtain ⟨causes, refused, _⟩ := validate_of_hit readable strict hit
    obtain rfl := Except.ok.inj (ran.symm.trans refused)
    exact ⟨List.nodup_nil, fun _ member => absurd member List.not_mem_nil⟩
  · have safe : ∀ entry ∈ batch, ¬ IsHit entry := fun entry member dangerous =>
      hit ⟨entry, member, dangerous⟩
    obtain ⟨outcomes, judged, validated⟩ := validate_of_safe readable strict safe
    obtain rfl := Except.ok.inj (ran.symm.trans validated)
    refine ⟨OrderedMap.distinct_ofList _, fun declaration member => ?_⟩
    obtain ⟨entry, entry_mem, admits⟩ := admits_of_mem_validated readable judged member
    exact Survives.again ⟨safe entry entry_mem, admits⟩

/-- Validating what a validation left refuses nothing and changes nothing. -/
theorem validate_validated {batch : Batch} {strict : Bool} {result : Result}
    (ran : validate batch strict = .ok result) :
    ∃ again, validate (Batch.ofTexts result.validated) false = .ok again ∧
      again.rejections = [] ∧ again.validated = result.validated := by
  obtain ⟨distinct, survive⟩ := validated_spec ran
  exact validate_of_survivors survive distinct

/-- Of two names that come to one and a value that is refused, a single declaration
is left, and it comes out again. -/
theorem validate_validated_on_colliding_names :
    ∃ result, validate (Batch.ofTexts [(" Display ".toList, "Block".toList),
          ("color".toList, "reddish".toList),
          ("DISPLAY!".toList, " inline\t".toList)]) true = .ok result ∧
      result.validated = [("display".toList, "inline".toList)] ∧
      result.rejections = [.invalidColor "color".toList "reddish".toList] ∧
      ∃ again, validate (Batch.ofTexts result.validated) false = .ok again ∧
        again.rejections = [] ∧ again.validated = result.validated := by
  have ran : validate (Batch.ofTexts [(" Display ".toList, "Block".toList),
        ("color".toList, "reddish".toList),
        ("DISPLAY!".toList, " inline\t".toList)]) true =
      .ok ⟨[("display".toList, "inline".toList)], [],
        [.invalidColor "color".toList "reddish".toList]⟩ := rfl
  exact ⟨_, ran, rfl, rfl, validate_validated ran⟩

end Gate

end CssAudit
