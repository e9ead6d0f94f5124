import CssAudit.Accessibility.Report
import CssAudit.Proofs.Accessibility.Typography
import CssAudit.Proofs.Gate.Sanitize

/-!
# When a check returns

Of all rules only that of contrast can fail, and only where it comes to judge the size
of a text.  A style sheet is therefore checked to the end unless one of its rules
compares two colors it understands at a weight that cannot be read.
-/

namespace CssAudit

namespace Rules

/-- Whether a rule compares two colors that are understood. -/
def ComparesColors (rule : StyleRule) (context : Context) : Prop :=
  ∃ pair, colorPair? rule context = some pair ∧
    isUnresolvable pair.foreground = false ∧ isUnresolvable pair.background = false ∧
    (Color.parse? pair.foreground).isSome = true ∧ (Color.parse? pair.background).isSome = true

/-- Whether a rule compares colors at a weight that cannot be read. -/
structure Stumbles (rule : StyleRule) (context : Context) : Prop where
  compares : ComparesColors rule context
  depends : Typography.DependsOnUnreadable rule.declarations

theorem contrast_returns_iff {rule : StyleRule} {context : Context} :
    Batch.Returns (contrast rule context) ↔ ¬ Stumbles rule context := by
  have uncompared (apart : ¬ ComparesColors rule context) {issues : List Issue} :
      Batch.Returns (.ok issues : Except Numeral.IntegerError (List Issue)) ↔
        ¬ Stumbles rule context := by
    simpa using fun stumbles : Stumbles rule context => apart stumbles.compares
  -- Every branch but the last ends before the size of the text is judged.
  unfold contrast
  cases compared : colorPair? rule context with
  | none => exact uncompared (by simp [ComparesColors, compared])
  | some pair =>
      dsimp only
      by_cases unresolvable : (isUnresolvable pair.foreground ||
          isUnresolvable pair.background) = true
      · rw [if_pos unresolvable]
        refine uncompared ?_
        rintro ⟨other, other_eq, first, second, -⟩
        obtain rfl := Option.some.inj (compared.symm.trans other_eq)
        simp [first, second] at unresolvable
      · rw [if_neg unresolvable]
        simp only [Bool.or_eq_true, not_or, Bool.not_eq_true] at unresolvable
        cases foreground_eq : Color.parse? pair.foreground with
        | none =>
            exact uncompared (by simp [ComparesColors, compared, foreground_eq])
        | some foreground =>
            cases background_eq : Color.parse? pair.background with
            | none =>
                exact uncompared (by simp [ComparesColors, compared, background_eq])
            | some background =>
                have compares : ComparesColors rule context :=
                  ⟨pair, compared, unresolvable.1, unresolvable.2, by simp [foreground_eq],
                    by simp [background_eq]⟩
                rw [Batch.returns_bind_ok_iff, Typography.isLarge_returns_iff]
                exact not_congr ⟨fun depends => ⟨compares, depends⟩,
                  fun stumbles => stumbles.depends⟩

end Rules

namespace Check

/-- Texts with names in normal form come to a rule block as they stand. -/
theorem ruleOf_ofTexts {declarations : List (Text × Text)}
    (normal : ∀ declaration ∈ declarations, ∀ c ∈ declaration.1, Gate.isNameChar c = true)
    (selector : Option Text) :
    ruleOf (Batch.ofTexts declarations) selector =
      .ok (.ofDeclarations (Text.trim (selector.getD [])) declarations) := by
  have usable : (Batch.ofTexts declarations).mapM declaration? =
      .ok (declarations.map some) := by
    apply Batch.mapM_ofTexts
    intro declaration member
    have unfolded : declaration? (.text declaration.1, .text declaration.2) =
        .ok (some (Text.lower (Text.trim declaration.1), declaration.2)) := rfl
    rw [unfolded, Gate.trim_eq_self_of_isNameChar (normal declaration member),
      Gate.lower_eq_self_of_isNameChar (normal declaration member)]
  rw [ruleOf, usable]
  simp [bind, Except.bind]

theorem blockIssues_returns_iff {rule : StyleRule} {context : Context} :
    Batch.Returns (blockIssues rule context) ↔ ¬ Rules.Stumbles rule context := by
  rw [blockIssues, Batch.returns_bind_ok_iff, Rules.contrast_returns_iff]

theorem sheet_returns_iff {sheet : Stylesheet} {context : Context} :
    Batch.Returns (Check.sheet sheet context) ↔
      ∀ rule ∈ sheet.rules, ¬ Rules.Stumbles rule context := by
  have located (rule : StyleRule) :
      Rules.Stumbles rule { context with selector := some rule.selector } ↔
        Rules.Stumbles rule context :=
    ⟨fun stumbles => ⟨stumbles.compares, stumbles.depends⟩,
      fun stumbles => ⟨stumbles.compares, stumbles.depends⟩⟩
  rw [Check.sheet, Batch.returns_bind_ok_iff, Batch.returns_mapM_iff]
  simp only [blockIssues_returns_iff, located]

end Check

namespace Report

/-- A style sheet is checked, and reported on for any target, unless one of its rules
compares two colors it understands at a weight that cannot be read. -/
theorem build_returns_iff (source : Text) (context : Context) :
    (Batch.Returns (Check.stylesheet source context) ↔
        ∀ rule ∈ (Stylesheet.parse source).rules, ¬ Rules.Stumbles rule context) ∧
      ∀ target, Batch.Returns (Report.build source context target) ↔
        ∀ rule ∈ (Stylesheet.parse source).rules, ¬ Rules.Stumbles rule context := by
  refine ⟨Check.sheet_returns_iff, fun target => ?_⟩
  rw [Report.build, Batch.returns_bind_ok_iff]
  exact Check.sheet_returns_iff

end Report

end CssAudit
