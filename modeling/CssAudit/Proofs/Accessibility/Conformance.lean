import CssAudit.Proofs.Accessibility.Findings
import CssAudit.Proofs.Accessibility.Returning
import CssAudit.Proofs.Stylesheet.Concatenation

/-!
# Conformance of style sheets put together

Level and verdict of a check depend on its errors only.  The rules of whole style
sheets find none, so the errors of a style sheet are those of its rule blocks, and
a style sheet put together from two achieves the lower of their levels.
-/

namespace CssAudit

/-- The rank of an achieved level; to achieve none is below all levels. -/
def achievedRank : Option Level → Nat
  | none => 0
  | some level => level.rank

/-- The lower of two achieved levels. -/
def lowerLevel (first second : Option Level) : Option Level :=
  if achievedRank first ≤ achievedRank second then first else second

theorem achievedRank_lowerLevel (first second : Option Level) :
    achievedRank (lowerLevel first second) =
      min (achievedRank first) (achievedRank second) := by
  unfold lowerLevel
  split <;> omega

theorem meetsTarget_iff {achieved : Option Level} {target : Level} :
    meetsTarget achieved target = true ↔ target.rank ≤ achievedRank achieved := by
  cases achieved with
  | none => cases target <;> decide
  | some level => simp [meetsTarget, achievedRank]

theorem eq_of_meetsTarget {first second : Option Level}
    (same : ∀ target, meetsTarget first target = true ↔ meetsTarget second target = true) :
    first = second := by
  rcases first with _ | first <;> rcases second with _ | second
  · rfl
  · cases second <;> exact absurd (same .a) (by decide)
  · cases first <;> exact absurd (same .a) (by decide)
  · have low := (same first).mp (meetsTarget_iff.mpr (Nat.le_refl _))
    have high := (same second).mpr (meetsTarget_iff.mpr (Nat.le_refl _))
    rw [meetsTarget_iff] at low high
    cases first <;> cases second <;> first | rfl | exact absurd low (by decide) |
      exact absurd high (by decide)

theorem meetsTarget_achievedLevel_iff {issues : List Issue} {target : Level} :
    meetsTarget (achievedLevel issues) target = true ↔
      ∀ issue ∈ issues, issue.isError = true → target.rank < issue.level.rank := by
  have each : (∀ issue ∈ issues, issue.isError = true → target.rank < issue.level.rank) ↔
      ∀ level ∈ (issues.filter (·.isError)).map (·.level), target.rank < level.rank := by
    simp only [List.forall_mem_map, List.mem_filter, and_imp]
  rw [each, meetsTarget_iff, achievedLevel]
  generalize (issues.filter (·.isError)).map (·.level) = failed
  -- The level is found by asking for errors at each of the three levels in turn.
  have listed : (∀ level ∈ failed, target.rank < level.rank) ↔
      (Level.a ∈ failed → target.rank < 1) ∧ (Level.aa ∈ failed → target.rank < 2) ∧
        (Level.aaa ∈ failed → target.rank < 3) := by
    constructor
    · exact fun above => ⟨above .a, above .aa, above .aaa⟩
    · rintro ⟨lowest, middle, highest⟩ (_ | _ | _) member
      · exact lowest member
      · exact middle member
      · exact highest member
  rw [listed]
  by_cases lowest : Level.a ∈ failed <;> by_cases middle : Level.aa ∈ failed <;>
    by_cases highest : Level.aaa ∈ failed <;> cases target <;>
    simp [lowest, middle, highest, achievedRank, Level.rank]

theorem achievedLevel_append (first second : List Issue) :
    achievedLevel (first ++ second) =
      lowerLevel (achievedLevel first) (achievedLevel second) := by
  apply eq_of_meetsTarget
  intro target
  have lower : meetsTarget (lowerLevel (achievedLevel first) (achievedLevel second)) target =
      true ↔ meetsTarget (achievedLevel first) target = true ∧
        meetsTarget (achievedLevel second) target = true := by
    simp only [meetsTarget_iff, achievedRank_lowerLevel, Nat.le_min]
  rw [lower]
  simp only [meetsTarget_achievedLevel_iff, List.forall_mem_append]

namespace Compliance

theorem errorCount_eq (report : Compliance) : report.errorCount = report.errors.length :=
  List.countP_eq_length_filter

theorem passes_eq (report : Compliance) : report.passes = report.errors.isEmpty := by
  rw [passes, errorCount_eq]
  cases report.errors <;> rfl

theorem level?_eq (report : Compliance) : report.level? = achievedLevel report.errors := by
  apply eq_of_meetsTarget
  intro target
  simp only [level?, meetsTarget_achievedLevel_iff, errors, List.mem_filter]
  exact ⟨fun above issue member => above issue member.1,
    fun above issue member error => above issue ⟨member, error⟩ error⟩

end Compliance

namespace Check

open Batch

theorem errors_sheetIssues (sheet : Stylesheet) :
    (sheetIssues sheet).filter (·.isError) = [] := by
  rw [List.filter_eq_nil_iff]
  intro issue member
  cases isSheetFinding_of_mem issue member <;> exact Bool.false_ne_true

/-- The issues of the blocks of a style sheet, block by block. -/
def blocksIssues (rules : List StyleRule) (context : Context) :
    Except Numeral.IntegerError (List (List Issue)) :=
  rules.mapM fun rule => blockIssues rule { context with selector := some rule.selector }

theorem errors_of_sheet {rules : List StyleRule} {context : Context} {report : Compliance}
    (ran : Check.sheet ⟨rules⟩ context = .ok report) :
    ∃ found, blocksIssues rules context = .ok found ∧
      report.errors = found.flatten.filter (·.isError) := by
  obtain ⟨found, found_eq, shape⟩ := bind_eq_ok_iff.mp ran
  obtain rfl := Except.ok.inj shape
  refine ⟨found, found_eq, ?_⟩
  rw [Compliance.errors, List.filter_append, errors_sheetIssues, List.append_nil]

theorem errors_sheet_append {first second : List StyleRule} {context : Context}
    {whole front back : Compliance}
    (whole_ran : Check.sheet ⟨first ++ second⟩ context = .ok whole)
    (front_ran : Check.sheet ⟨first⟩ context = .ok front)
    (back_ran : Check.sheet ⟨second⟩ context = .ok back) :
    whole.errors = front.errors ++ back.errors := by
  obtain ⟨found, found_eq, whole_errors⟩ := errors_of_sheet whole_ran
  obtain ⟨left, left_eq, front_errors⟩ := errors_of_sheet front_ran
  obtain ⟨right, right_eq, back_errors⟩ := errors_of_sheet back_ran
  obtain ⟨left', right', left_eq', right_eq', rfl⟩ := mapM_append_eq_ok_iff.mp found_eq
  obtain rfl := Except.ok.inj (left_eq.symm.trans left_eq')
  obtain rfl := Except.ok.inj (right_eq.symm.trans right_eq')
  rw [whole_errors, front_errors, back_errors, List.flatten_append, List.filter_append]

section Append

variable {first : Text} (ends : first.getLast? = some '}')
  (closed : ¬ Stylesheet.OpensComment (Stylesheet.stripComments first)) (second : Text)
include ends closed

theorem stylesheet_append_returns_iff (context : Context) :
    Returns (stylesheet (first ++ second) context) ↔
      Returns (stylesheet first context) ∧ Returns (stylesheet second context) := by
  simp only [stylesheet, sheet_returns_iff, Stylesheet.parse_append ends closed,
    List.forall_mem_append]

/-- A style sheet that ends with a block, all of its comments closed, may be followed by
any text: the rule blocks are those of the one and then those of the other.  The errors
of both add up, and the lower of their levels is achieved. -/
theorem stylesheet_append :
    (Stylesheet.parse (first ++ second)).rules =
        (Stylesheet.parse first).rules ++ (Stylesheet.parse second).rules ∧
      ∀ context,
        (Returns (stylesheet (first ++ second) context) ↔
          Returns (stylesheet first context) ∧ Returns (stylesheet second context)) ∧
        ∀ whole front back, stylesheet (first ++ second) context = .ok whole →
          stylesheet first context = .ok front → stylesheet second context = .ok back →
          whole.errorCount = front.errorCount + back.errorCount ∧
            whole.level? = lowerLevel front.level? back.level? ∧
            (∀ target, meetsTarget whole.level? target = true →
              meetsTarget front.level? target = true ∧ meetsTarget back.level? target = true) ∧
            (whole.passes = true ↔ front.passes = true ∧ back.passes = true) := by
  have rules_eq : (Stylesheet.parse (first ++ second)).rules =
      (Stylesheet.parse first).rules ++ (Stylesheet.parse second).rules :=
    Stylesheet.parse_append ends closed
  refine ⟨rules_eq, fun context =>
    ⟨stylesheet_append_returns_iff ends closed second context, ?_⟩⟩
  intro whole front back whole_ran front_ran back_ran
  have sheet_eq : Stylesheet.parse (first ++ second) =
      ⟨(Stylesheet.parse first).rules ++ (Stylesheet.parse second).rules⟩ := by
    rw [← rules_eq]
  rw [stylesheet, sheet_eq] at whole_ran
  have errors_eq : whole.errors = front.errors ++ back.errors :=
    errors_sheet_append whole_ran front_ran back_ran
  have level_eq : whole.level? = lowerLevel front.level? back.level? := by
    rw [Compliance.level?_eq, errors_eq, achievedLevel_append, ← Compliance.level?_eq,
      ← Compliance.level?_eq]
  refine ⟨?_, level_eq, fun target met => ?_, ?_⟩
  · simp only [Compliance.errorCount_eq, errors_eq, List.length_append]
  · rw [level_eq, meetsTarget_iff, achievedRank_lowerLevel] at met
    exact ⟨meetsTarget_iff.mpr (by omega), meetsTarget_iff.mpr (by omega)⟩
  · simp only [Compliance.passes_eq, errors_eq, List.isEmpty_iff, List.append_eq_nil_iff]

end Append

/-- The at-rule stays open until the next text, which has a brace in a comment. -/
theorem stylesheet_append_on_open_block :
    ∃ whole front back,
      stylesheet ("@media print \x7b a:focus \x7b outline: none \x7d".toList ++
          "\x7d/* \x7b */ a \x7b display: none \x7d".toList) { isInteractive := true } =
        .ok whole ∧
      stylesheet "@media print \x7b a:focus \x7b outline: none \x7d".toList
        { isInteractive := true } = .ok front ∧
      stylesheet "\x7d/* \x7b */ a \x7b display: none \x7d".toList
        { isInteractive := true } = .ok back ∧
      front.level? = some .a ∧ back.level? = none ∧ whole.level? = none ∧
      whole.errorCount = 2 := by
  have ends : "@media print \x7b a:focus \x7b outline: none \x7d".toList.getLast? = some '}' := by
    decide
  have front_ran : stylesheet "@media print \x7b a:focus \x7b outline: none \x7d".toList
      { isInteractive := true } = .ok ⟨[Rules.outlineRemoved
        (.ofDeclarations "a:focus".toList [("outline".toList, "none".toList)])]⟩ := rfl
  have back_ran : stylesheet "\x7d/* \x7b */ a \x7b display: none \x7d".toList
      { isInteractive := true } = .ok ⟨[Rules.notDisplayed
        (.ofDeclarations "a".toList [("display".toList, "none".toList)])]⟩ := rfl
  obtain ⟨-, appended⟩ := stylesheet_append ends (by decide)
    "\x7d/* \x7b */ a \x7b display: none \x7d".toList
  obtain ⟨returns, adds⟩ := appended { isInteractive := true }
  obtain ⟨whole, whole_ran⟩ := returns.mpr ⟨⟨_, front_ran⟩, ⟨_, back_ran⟩⟩
  obtain ⟨errors, level, -⟩ := adds whole _ _ whole_ran front_ran back_ran
  exact ⟨whole, _, _, whole_ran, front_ran, back_ran, rfl, rfl, level, errors⟩

end Check

end CssAudit
