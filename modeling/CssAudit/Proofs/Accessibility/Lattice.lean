import CssAudit.Accessibility.Report
import CssAudit.Proofs.Accessibility.Conformance

/-!
# Levels, verdicts and recommendations

A level is known by the targets that it meets, and a target is missed exactly if an error
concerns its level or a lower one.  Level, verdict and urgent recommendations are thus
three readings of the errors of a list of issues, whatever else is in it and in whatever
order.
-/

namespace CssAudit

theorem achievedRank_le_iff {first second : Option Level} :
    achievedRank first ≤ achievedRank second ↔
      ∀ target, meetsTarget first target = true → meetsTarget second target = true := by
  simp only [meetsTarget_iff]
  constructor
  · exact fun below target met => met.trans below
  · intro meets
    cases first with
    | none => exact Nat.zero_le _
    | some level => exact meets level (Nat.le_refl _)

section Issues

variable {issues more : List Issue}

/-- A target is met unless an error concerns its level or a lower one. -/
theorem meetsTarget_iff_not_exists {target : Level} :
    meetsTarget (achievedLevel issues) target = true ↔
      ¬ ∃ issue ∈ issues, issue.isError = true ∧ issue.level.rank ≤ target.rank := by
  rw [meetsTarget_achievedLevel_iff]
  push Not
  exact Iff.rfl

theorem achievedLevel_perm (permuted : issues.Perm more) :
    achievedLevel issues = achievedLevel more := by
  apply eq_of_meetsTarget
  intro target
  simp only [meetsTarget_achievedLevel_iff, permuted.mem_iff]

theorem achievedLevel_filter_isError (issues : List Issue) :
    achievedLevel (issues.filter (·.isError)) = achievedLevel issues :=
  (Compliance.level?_eq ⟨issues⟩).symm

theorem achievedRank_anti (added : issues ⊆ more) :
    achievedRank (achievedLevel more) ≤ achievedRank (achievedLevel issues) := by
  rw [achievedRank_le_iff]
  intro target met
  rw [meetsTarget_achievedLevel_iff] at met ⊢
  exact fun issue member => met issue (added member)

end Issues

theorem Level.rank_le_rank_aaa (level : Level) : level.rank ≤ Level.rank .aaa := by
  cases level <;> decide

theorem meetsTarget_aaa_iff {achieved : Option Level} :
    meetsTarget achieved .aaa = true ↔ achieved = some .aaa := by
  rcases achieved with _ | _ | _ | _ <;> decide

theorem Compliance.passes_iff_level? (report : Compliance) :
    report.passes = true ↔ report.level? = some .aaa := by
  rw [← meetsTarget_aaa_iff, Compliance.level?, meetsTarget_iff_not_exists, Compliance.passes_eq,
    List.isEmpty_iff, Compliance.errors, List.filter_eq_nil_iff]
  simp only [Level.rank_le_rank_aaa, and_true, not_exists, not_and]

/-- The urgent recommendations are the errors in order. -/
theorem filter_high_recommendations (compliance : Compliance) (suggestions : List Issue)
    (target : Level) :
    (recommendations compliance suggestions target).filter (·.priority = .high) =
      compliance.errors.map (⟨.high, ·⟩) := by
  have urgent (issues : List Issue) :
      (issues.map (Recommendation.mk .high)).filter (·.priority = .high) =
        issues.map (Recommendation.mk .high) := by
    simp [List.filter_map, Function.comp_def]
  have other {priority : Priority} (lower : priority ≠ .high) (issues : List Issue) :
      (issues.map (Recommendation.mk priority)).filter (·.priority = .high) = [] := by
    simp [List.filter_map, Function.comp_def, lower]
  rw [recommendations, List.filter_append, List.filter_append, urgent, other (by decide)]
  split
  · simp
  · simp [other]

namespace Report

theorem build_eq_ok_iff {source : Text} {context : Context} {target : Level}
    {report : Report} :
    build source context target = .ok report ↔
      ∃ compliance, Check.stylesheet source context = .ok compliance ∧
        report = ⟨compliance, Probe.suggest source, target,
          CssAudit.recommendations compliance (Probe.suggest source) target⟩ := by
  rw [build, Batch.bind_eq_ok_iff]
  simp only [Except.ok.injEq, eq_comm]

section Built

variable {source : Text} {context : Context} {target : Level} {report : Report}
  (built : build source context target = .ok report)
include built

theorem high_recommendations :
    report.recommendations.filter (·.priority = .high) =
      report.compliance.errors.map (⟨.high, ·⟩) := by
  obtain ⟨compliance, -, rfl⟩ := build_eq_ok_iff.mp built
  exact filter_high_recommendations compliance _ _

theorem meetsTarget_eq_false_iff :
    report.meetsTarget = false ↔ ∃ recommendation ∈ report.recommendations,
      recommendation.priority = .high ∧ recommendation.issue.level.rank ≤ target.rank := by
  have urgent (recommendation : Recommendation) :
      recommendation ∈ report.recommendations ∧ recommendation.priority = .high ↔
        ∃ issue ∈ report.compliance.errors, ⟨.high, issue⟩ = recommendation := by
    rw [← List.mem_map, ← high_recommendations built, List.mem_filter, decide_eq_true_eq]
  have aimed : report.target = target := by
    obtain ⟨_, -, rfl⟩ := build_eq_ok_iff.mp built
    rfl
  rw [← Bool.not_eq_true, Report.meetsTarget, aimed, Compliance.level?,
    meetsTarget_iff_not_exists, not_not]
  simp only [← and_assoc, urgent, Compliance.errors, List.mem_filter]
  constructor
  · rintro ⟨issue, failed, low⟩
    exact ⟨⟨.high, issue⟩, ⟨issue, failed, rfl⟩, low⟩
  · rintro ⟨_, ⟨issue, failed, rfl⟩, low⟩
    exact ⟨issue, failed, low⟩

end Built

end Report

/-- The conformance lattice: a target is met unless an error concerns its level or a lower
one.  So a report passes exactly at the highest level, and the level is told by the errors
in any order, never rises by more issues and is the lower one of two lists put together.
A report misses its target exactly for one of its urgent recommendations, and these are
the errors, each once and in order. -/
theorem conformance_lattice :
    (∀ issues target, meetsTarget (achievedLevel issues) target = true ↔
        ¬ ∃ issue ∈ issues, issue.isError = true ∧ issue.level.rank ≤ target.rank) ∧
      (∀ report : Compliance, report.passes = true ↔ report.level? = some .aaa) ∧
      (∀ issues permuted, issues.Perm permuted →
        achievedLevel permuted = achievedLevel issues) ∧
      (∀ issues, achievedLevel (issues.filter (·.isError)) = achievedLevel issues) ∧
      (∀ issues more, issues ⊆ more →
        achievedRank (achievedLevel more) ≤ achievedRank (achievedLevel issues)) ∧
      (∀ first second, achievedLevel (first ++ second) =
        lowerLevel (achievedLevel first) (achievedLevel second)) ∧
      ∀ source context target report, Report.build source context target = .ok report →
        (report.meetsTarget = false ↔ ∃ recommendation ∈ report.recommendations,
          recommendation.priority = .high ∧ recommendation.issue.level.rank ≤ target.rank) ∧
        (report.recommendations.filter (·.priority = .high)).map (·.issue) =
          report.compliance.issues.filter (·.isError) := by
  refine ⟨fun _ _ => meetsTarget_iff_not_exists, Compliance.passes_iff_level?,
    fun _ _ permuted => (achievedLevel_perm permuted).symm, achievedLevel_filter_isError,
    fun _ _ added => achievedRank_anti added, achievedLevel_append, ?_⟩
  intro source context target report built
  refine ⟨Report.meetsTarget_eq_false_iff built, ?_⟩
  rw [Report.high_recommendations built, List.map_map]
  exact List.map_id _

/-- An interactive element without outline and without pointer events: its error is of the
middle level, and its warning of the lowest level costs it nothing. -/
theorem conformance_lattice_on_bare_focus :
    ∃ report error warning note,
      Report.build "a:focus \x7b outline: none; pointer-events: none \x7d".toList
        { isInteractive := true } .aa = .ok report ∧
      report.compliance.issues = [error, warning, note] ∧
      report.meetsTarget = false ∧
      (report.recommendations.filter (·.priority = .high)).map (·.issue) = [error] ∧
      achievedLevel [note, error, warning] = some .a ∧
      achievedRank (achievedLevel [error, warning, note]) ≤
        achievedRank (achievedLevel [warning, note]) := by
  obtain ⟨report, built⟩ : Batch.Returns (Report.build
      "a:focus \x7b outline: none; pointer-events: none \x7d".toList
        { isInteractive := true } .aa) := ⟨_, rfl⟩
  let rule : StyleRule := .ofDeclarations "a:focus".toList
    [("outline".toList, "none".toList), ("pointer-events".toList, "none".toList)]
  have issues_eq : report.compliance.issues = [Rules.outlineRemoved rule,
      Rules.noPointerEvents rule, Rules.pointerEventsDisabled rule] := by
    obtain ⟨compliance, checked, rfl⟩ := Report.build_eq_ok_iff.mp built
    obtain rfl := Except.ok.inj checked
    rfl
  obtain ⟨-, -, permuted, -, anti, -, build⟩ := conformance_lattice
  obtain ⟨missed, urgent⟩ := build _ _ _ _ built
  have urgent_eq : (report.recommendations.filter (·.priority = .high)).map (·.issue) =
      [Rules.outlineRemoved rule] := by
    rw [urgent, issues_eq]
    rfl
  obtain ⟨recommendation, member, same⟩ : ∃ recommendation ∈
      report.recommendations.filter (·.priority = .high),
        recommendation.issue = Rules.outlineRemoved rule := by
    rw [← List.mem_map, urgent_eq]
    exact List.mem_singleton_self _
  rw [List.mem_filter, decide_eq_true_eq] at member
  have low : recommendation.issue.level.rank ≤ Level.rank .aa := by
    rw [same]
    exact Nat.le_refl _
  exact ⟨report, _, _, _, built, issues_eq,
    missed.mpr ⟨recommendation, member.1, member.2, low⟩, urgent_eq,
    permuted [_, _, _] _ (List.perm_append_singleton _ [_, _]),
    anti _ _ (List.subset_cons_self _ _)⟩

end CssAudit
