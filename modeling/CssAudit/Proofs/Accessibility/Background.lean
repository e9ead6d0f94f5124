import CssAudit.Proofs.Accessibility.Comparison

/-!
# What contrast is measured against

A text is measured against the background that its rule declares, unless that is fully
transparent, and else against the background of the context.  Nothing asks whether the
latter can be seen: a fully transparent background is measured against exactly if the
context names one and the rule declares none that can be seen.
-/

namespace CssAudit

namespace Rules

/-- Whether a rule declares no background, or a fully transparent one. -/
def LacksBackground (rule : StyleRule) : Prop :=
  ∀ raw, declaredBackground? rule = some raw → isTransparent raw = true

/-- Which literal a text is measured against, and whether it is a declared one. -/
inductive MeasuresAgainst (rule : StyleRule) (context : Context) : Text → Bool → Prop
  | declared {raw : Text} : declaredBackground? rule = some raw → isTransparent raw = false →
      MeasuresAgainst rule context raw true
  | default {raw : Text} : LacksBackground rule → context.background = some raw →
      MeasuresAgainst rule context raw false

section Contrast

variable {rule : StyleRule} {context : Context}

theorem measuresAgainst_of_colorPair? {pair : ColorPair}
    (compared : colorPair? rule context = some pair) :
    MeasuresAgainst rule context pair.background pair.declaredBackground := by
  unfold colorPair? at compared
  dsimp only at compared
  split at compared
  · cases compared
  · obtain ⟨foreground, -, compared⟩ := Option.bind_eq_some_iff.mp compared
    split at compared
    · rename_i raw seen
      obtain rfl := Option.some.inj compared
      obtain ⟨declared, visible⟩ := Option.filter_eq_some_iff.mp seen
      exact .declared declared (by simpa using visible)
    · rename_i unseen
      obtain ⟨raw, default_eq, compared⟩ := Option.bind_eq_some_iff.mp compared
      obtain rfl := Option.some.inj compared
      refine .default (fun declared declared_eq => ?_) default_eq
      simpa [declared_eq, Option.filter_some] using unseen

/-- The contrast issues of a rule are about two colors that it compares. -/
theorem contrastIssue?_of_mem {issues : List Issue} (ran : contrast rule context = .ok issues)
    {issue : Issue} (member : issue ∈ issues) (concerns : issue.concernsContrast = true) :
    ∃ pair foreground background large, colorPair? rule context = some pair ∧
      Color.parse? pair.background = some background ∧
      contrastIssue? rule pair foreground background large = some issue := by
  have unconcerned (raw : Text) : issue ∉ [unverifiableContrast rule raw] := by
    intro found
    obtain rfl := List.mem_singleton.mp found
    exact absurd concerns Bool.false_ne_true
  unfold contrast at ran
  split at ran
  · obtain rfl := Except.ok.inj ran
    exact absurd member List.not_mem_nil
  · rename_i pair compared
    split at ran
    · obtain rfl := Except.ok.inj ran
      exact absurd member List.not_mem_nil
    · split at ran
      · obtain rfl := Except.ok.inj ran
        exact absurd member (unconcerned _)
      · obtain rfl := Except.ok.inj ran
        exact absurd member (unconcerned _)
      · rename_i foreground background _ background_eq
        obtain ⟨large, _, shape⟩ := Batch.bind_eq_ok_iff.mp ran
        obtain rfl := Except.ok.inj shape
        exact ⟨pair, foreground, background, large, compared, background_eq,
          Option.mem_toList.mp member⟩

theorem MeasuresAgainst.isTransparent_iff {raw : Text} {declared : Bool}
    (measures : MeasuresAgainst rule context raw declared) :
    isTransparent raw = true ↔ LacksBackground rule ∧
      ∃ default, context.background = some default ∧ isTransparent default = true := by
  cases measures with
  | declared declared_eq visible =>
      refine iff_of_false (by simp [visible]) ?_
      rintro ⟨lacks, -⟩
      exact absurd (lacks raw declared_eq) (by simp [visible])
  | default lacks default_eq => simp [lacks, default_eq]

/-- An issue of too little contrast names what the text was measured against, which is a
color.  The color is fully transparent exactly if the context names such a background and
the rule declares none, or again a fully transparent one. -/
theorem contrast_background_isTransparent_iff {issues : List Issue}
    (ran : contrast rule context = .ok issues) {issue : Issue} (member : issue ∈ issues)
    (concerns : issue.concernsContrast = true) :
    ∃ facts background, issue.details = some (.contrast facts) ∧
      MeasuresAgainst rule context facts.background facts.declaredBackground ∧
      Color.parse? facts.background = some background ∧
      (background.isTransparent = true ↔ LacksBackground rule ∧
        ∃ default, context.background = some default ∧ isTransparent default = true) := by
  obtain ⟨pair, foreground, background, large, compared, background_eq, found⟩ :=
    contrastIssue?_of_mem ran member concerns
  have measures := measuresAgainst_of_colorPair? compared
  have transparent : isTransparent pair.background = background.isTransparent := by
    rw [isTransparent, background_eq, Option.any_some]
  have exact_condition := transparent ▸ measures.isTransparent_iff
  rcases contrastIssue?_eq_some_iff.mp found with ⟨_, rfl⟩ | ⟨_, _, rfl⟩
  · exact ⟨_, background, rfl, measures, background_eq, exact_condition⟩
  · exact ⟨_, background, rfl, measures, background_eq, exact_condition⟩

end Contrast

/-- Black text in a context without a background of its own fails against a black that
nobody sees. -/
theorem contrast_background_isTransparent_iff_on_unseen_default :
    ∃ issue facts background,
      contrast (.ofDeclarations [] [("color".toList, "black".toList)])
        { background := some "rgba(0, 0, 0, 0)".toList } = .ok [issue] ∧
      issue.ruleId = "insufficient_contrast".toList ∧
      issue.details = some (.contrast facts) ∧
      Color.parse? facts.background = some background ∧ background.isTransparent = true := by
  let rule : StyleRule := .ofDeclarations [] [("color".toList, "black".toList)]
  let pair : ColorPair := ⟨"black".toList, "rgba(0, 0, 0, 0)".toList, false⟩
  let context : Context := { background := some pair.background }
  let black : Color := ⟨0, 0, 0, none⟩
  have compared : colorPair? rule context = some pair := rfl
  have foreground_eq : Color.parse? pair.foreground = some black := rfl
  have too_low : (Color.parse? pair.background).any (fun unseen =>
      black.contrast unseen < Level.requiredContrast .aa false) = true := by
    decide +kernel
  obtain ⟨unseen, unseen_eq, too_low⟩ := (Option.any_eq_true _ _).mp too_low
  have small : Typography.isLarge rule.declarations = .ok false := by
    decide +kernel
  have found : contrastIssue? rule pair black unseen false =
      some (insufficientContrast rule pair black unseen false (black.contrast unseen)) :=
    contrastIssue?_eq_some_iff.mpr (.inl ⟨of_decide_eq_true too_low, rfl⟩)
  have ran : contrast rule context =
      .ok [insufficientContrast rule pair black unseen false (black.contrast unseen)] := by
    rw [contrast_of_colorPair? compared foreground_eq unseen_eq, small]
    exact congrArg (fun issue : Option Issue => Except.ok issue.toList) found
  obtain ⟨facts, background, details, _, background_eq, transparent_iff⟩ :=
    contrast_background_isTransparent_iff ran List.mem_cons_self rfl
  exact ⟨_, facts, background, ran, rfl, details, background_eq,
    transparent_iff.mpr ⟨fun _ declared => (by cases declared), _, rfl, by decide +kernel⟩⟩

end Rules

end CssAudit
