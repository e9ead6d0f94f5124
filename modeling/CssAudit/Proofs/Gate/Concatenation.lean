import CssAudit.Proofs.Gate.Admission
import CssAudit.Proofs.OrderedMap.Collection

/-!
# Batches one after another

The dangers, rejections and warnings of two batches validated as one are those of the
first followed by those of the second, and what survives from the second updates what
survives from the first.  Strict validation adds at most one rejection, at the end.
-/

namespace CssAudit

theorem Batch.readable_append_iff {first second : Batch} :
    Readable (first ++ second) ↔ first.Readable ∧ second.Readable :=
  List.forall_mem_append

namespace Gate

theorem dangers_append {first second : Batch} {found later : List Rejection}
    (first_eq : dangers first = .ok found) (second_eq : dangers second = .ok later) :
    dangers (first ++ second) = .ok (found ++ later) := by
  obtain ⟨left, left_eq, shape⟩ := Batch.bind_eq_ok_iff.mp first_eq
  obtain ⟨right, right_eq, other_shape⟩ := Batch.bind_eq_ok_iff.mp second_eq
  obtain rfl : left.flatten = found := Except.ok.inj shape
  obtain rfl : right.flatten = later := Except.ok.inj other_shape
  refine Batch.bind_eq_ok_iff.mpr ⟨left ++ right, ?_, by rw [List.flatten_append]⟩
  exact Batch.mapM_append_eq_ok_iff.mpr ⟨left, right, left_eq, right_eq, rfl⟩

theorem validate_eq_ok_iff_of_safe {batch : Batch} {strict : Bool} {result : Result}
    (safe : dangers batch = .ok []) :
    validate batch strict = .ok result ↔
      ∃ outcomes, batch.mapM judgeEntry = .ok outcomes ∧ .ofOutcomes strict outcomes = result := by
  have opened : validate batch strict = (batch.mapM judgeEntry >>= fun outcomes =>
      .ok (.ofOutcomes strict outcomes)) := by
    rw [validate, safe]
    rfl
  rw [opened, Batch.bind_eq_ok_iff]
  simp only [Except.ok.injEq]

theorem ofOutcomes_append (first second : List EntryOutcome) :
    Result.ofOutcomes false (first ++ second) = {
      validated := OrderedMap.insertAll (Result.ofOutcomes false first).validated
        (Result.ofOutcomes false second).validated
      warnings := (Result.ofOutcomes false first).warnings ++
        (Result.ofOutcomes false second).warnings
      rejections := (Result.ofOutcomes false first).rejections ++
        (Result.ofOutcomes false second).rejections } := by
  simp [Result.ofOutcomes, strictRejection, OrderedMap.ofList_append,
    OrderedMap.insertAll_ofList]

theorem ofOutcomes_strict (outcomes : List EntryOutcome) :
    Result.ofOutcomes true outcomes = { Result.ofOutcomes false outcomes with
      rejections := (Result.ofOutcomes false outcomes).rejections ++
        strictRejection true (Result.ofOutcomes false outcomes).warnings } := by
  simp [Result.ofOutcomes, strictRejection]

theorem validate_strict {batch : Batch} {found : List Rejection} {result : Result}
    (searched : dangers batch = .ok found) (ran : validate batch false = .ok result) :
    validate batch true = .ok { result with
      rejections := result.rejections ++ if result.warnings ≠ [] ∧ found = [] then
        [.strictWarnings result.warnings.length] else [] } := by
  cases found with
  | nil =>
      obtain ⟨outcomes, judged, rfl⟩ := (validate_eq_ok_iff_of_safe searched).mp ran
      refine (validate_eq_ok_iff_of_safe searched).mpr ⟨outcomes, judged, ?_⟩
      rw [ofOutcomes_strict]
      simp [strictRejection]
  | cons cause others =>
      have refused (strict : Bool) :
          validate batch strict = .ok { rejections := cause :: others } := by
        simp [validate, searched, bind, Except.bind]
      obtain rfl := Except.ok.inj (ran.symm.trans (refused false))
      simp [refused]

/-- Validation goes from batch to batch.  The search finds the dangers of the first batch
and then those of the second.  If there are none, the rejections and warnings of both
follow each other, and the declarations that survive from the second are inserted one by
one into those of the first, where a name keeps its place and takes the later value.
Strictly validated, the whole has the same declarations and warnings, and one more
rejection at the end if there are warnings and no dangers. -/
theorem validate_append {first second : Batch} {result : Result}
    (ran : validate (first ++ second) false = .ok result) :
    ∃ found later, dangers first = .ok found ∧ dangers second = .ok later ∧
      dangers (first ++ second) = .ok (found ++ later) ∧
      (found ++ later = [] →
        ∃ left right, validate first false = .ok left ∧ validate second false = .ok right ∧
          result.rejections = left.rejections ++ right.rejections ∧
          result.warnings = left.warnings ++ right.warnings ∧
          result.validated = OrderedMap.insertAll left.validated right.validated ∧
          OrderedMap.IsUpdate left.validated right.validated result.validated) ∧
      validate (first ++ second) true = .ok { result with
        rejections := result.rejections ++
          if result.warnings ≠ [] ∧ found ++ later = [] then
            [.strictWarnings result.warnings.length] else [] } := by
  obtain ⟨readable, other_readable⟩ := Batch.readable_append_iff.mp (readable_of_validate ran)
  obtain ⟨found, first_eq, _⟩ := dangers_spec readable
  obtain ⟨later, second_eq, _⟩ := dangers_spec other_readable
  have searched := dangers_append first_eq second_eq
  refine ⟨found, later, first_eq, second_eq, searched, fun safe => ?_,
    validate_strict searched ran⟩
  obtain ⟨rfl, rfl⟩ := List.append_eq_nil_iff.mp safe
  obtain ⟨outcomes, judged, rfl⟩ := (validate_eq_ok_iff_of_safe searched).mp ran
  obtain ⟨left, right, left_eq, right_eq, rfl⟩ := Batch.mapM_append_eq_ok_iff.mp judged
  refine ⟨.ofOutcomes false left, .ofOutcomes false right,
    (validate_eq_ok_iff_of_safe first_eq).mpr ⟨left, left_eq, rfl⟩,
    (validate_eq_ok_iff_of_safe second_eq).mpr ⟨right, right_eq, rfl⟩, ?_⟩
  rw [ofOutcomes_append]
  exact ⟨rfl, rfl, rfl, OrderedMap.isUpdate_insertAll _ (OrderedMap.distinct_ofList _)⟩

/-- A name that comes again keeps its place, and the one warning refuses strictly. -/
theorem validate_append_on_name_that_comes_again :
    ∃ result, validate (Batch.ofTexts [("display".toList, "block".toList),
          ("font-family".toList, "Georgia".toList)] ++
        Batch.ofTexts [("color".toList, "reddish".toList),
          ("DISPLAY".toList, "flex".toList)]) false = .ok result ∧
      result.validated = [("display".toList, "flex".toList),
        ("font-family".toList, "Georgia".toList)] ∧
      validate (Batch.ofTexts [("display".toList, "block".toList),
          ("font-family".toList, "Georgia".toList)] ++
        Batch.ofTexts [("color".toList, "reddish".toList),
          ("DISPLAY".toList, "flex".toList)]) true = .ok { result with
        rejections := [.invalidColor "color".toList "reddish".toList, .strictWarnings 1] } := by
  have ran : validate (Batch.ofTexts [("display".toList, "block".toList),
        ("font-family".toList, "Georgia".toList)] ++
      Batch.ofTexts [("color".toList, "reddish".toList),
        ("DISPLAY".toList, "flex".toList)]) false =
      .ok ⟨[("display".toList, "flex".toList), ("font-family".toList, "Georgia".toList)],
        [⟨"font-family".toList, "Georgia".toList⟩],
        [.invalidColor "color".toList "reddish".toList]⟩ := rfl
  obtain ⟨found, later, first_eq, second_eq, _, _, strictly⟩ := validate_append ran
  obtain rfl : [] = found := Except.ok.inj first_eq
  obtain rfl : [] = later := Except.ok.inj second_eq
  exact ⟨_, ran, rfl, strictly⟩

end Gate

end CssAudit
