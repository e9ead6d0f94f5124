import CssAudit.Accessibility.PairCheck
import CssAudit.Proofs.Accessibility.Findings
import CssAudit.Proofs.Color.Repair

/-!
# Advice on contrast

A color that a check names in place of a foreground is a color that passes: it is read
back from the advice, and its contrast is the one that was asked for.
-/

namespace CssAudit

/-- Whether an issue is one of too little contrast. -/
def Issue.concernsContrast (issue : Issue) : Bool :=
  issue.ruleId == "insufficient_contrast".toList || issue.ruleId == "contrast_below_aaa".toList

/-- Whether the colors that an issue suggests reach the contrast that it asks for, on the
background that it speaks of. -/
def Issue.SuggestsRemedy (issue : Issue) : Prop :=
  ∀ advice literal, issue.suggestion = some advice → Color.Names advice literal →
    ∃ facts color background, issue.details = some (.contrast facts) ∧
      Color.parse? literal = some color ∧ Color.parse? facts.background = some background ∧
      facts.required ≤ color.contrast background

namespace Check

theorem IsContrastFinding.suggestsRemedy {rule : StyleRule} {issue : Issue}
    (finding : IsContrastFinding rule issue) : issue.SuggestsRemedy := by
  intro advice literal suggested named
  cases finding with
  | unverifiable raw =>
      obtain rfl := Option.some.inj suggested
      exact absurd named (Color.not_names_of_not_mem (by decide))
  | insufficient large foreground_eq background_eq =>
      obtain rfl := Option.some.inj suggested
      obtain ⟨color, read, reaches⟩ := Color.parse?_of_repair_names named
      exact ⟨_, color, _, rfl, read, background_eq, reaches⟩
  | belowEnhanced large foreground_eq background_eq =>
      obtain rfl := Option.some.inj suggested
      obtain ⟨color, read, reaches⟩ := Color.parse?_of_repair_names named
      exact ⟨_, color, _, rfl, read, background_eq, reaches⟩

theorem IsFinding.suggestsRemedy {issue : Issue} (finding : IsFinding issue)
    (contrast : issue.concernsContrast = true) : issue.SuggestsRemedy := by
  cases finding with
  | contrast finding => exact finding.suggestsRemedy
  | plain finding => cases finding <;> exact absurd contrast Bool.false_ne_true
  | sheet finding => cases finding <;> exact absurd contrast Bool.false_ne_true

end Check

namespace PairCheck

theorem passes_of_names {foreground background : Datum} {level : Level} {large : Bool}
    {advice literal : Text}
    (suggested : (run foreground background level large).suggestion = some advice)
    (named : Color.Names advice literal) :
    (run (.text literal) background level large).passes = true := by
  unfold run at suggested
  split at suggested
  · rename_i first second _ background_eq
    dsimp only [ofColors] at suggested
    split at suggested
    · cases suggested
    · obtain rfl := Option.some.inj suggested
      obtain ⟨color, read, reaches⟩ := Color.parse?_of_repair_names named
      have literal_eq : colorOf? (.text literal) = some color := read
      rw [run, literal_eq, background_eq]
      exact decide_eq_true reaches
  · cases suggested

end PairCheck

/-- A color that the check of a pair suggests passes the same check, and a color that an
issue suggests reaches the contrast of its details on the background of its details.  The
advice for a foreground names a color if one of those that are tried passes. -/
theorem suggested_colors_pass :
    (∀ foreground background level large advice literal,
      (PairCheck.run foreground background level large).suggestion = some advice →
        Color.Names advice literal →
          (PairCheck.run (.text literal) background level large).passes = true) ∧
    (∀ batch context report, Check.declarations batch context = .ok report →
      ∀ issue ∈ report.issues, issue.concernsContrast = true → issue.SuggestsRemedy) ∧
    (∀ source context report, Check.stylesheet source context = .ok report →
      ∀ issue ∈ report.issues, issue.concernsContrast = true → issue.SuggestsRemedy) ∧
    ∀ (foreground background : Color) required,
      (∃ literal, Color.Names (foreground.repair background required).message literal) ↔
        ∃ candidate ∈ foreground.replacements background,
          required ≤ candidate.contrast background := by
  refine ⟨?_, ?_, ?_, ?_⟩
  · intro foreground background level large advice literal suggested named
    exact PairCheck.passes_of_names suggested named
  · intro batch context report ran issue member
    exact (Check.isFinding_of_declarations ran issue member).suggestsRemedy
  · intro source context report ran issue member
    exact (Check.isFinding_of_sheet ran issue member).suggestsRemedy
  · intro foreground background required
    exact Color.exists_repair_names_iff

/-- The advice for a dark color on itself names a darker one. -/
theorem suggested_colors_pass_on_dark_text :
    let ink : Color := ⟨10, 10, 10, none⟩
    Color.Names (ink.repair ink 1.01).message "#050505".toList := by
  intro ink
  have first : (((ink.replacements ink).find? fun candidate =>
      1.01 ≤ candidate.contrast ink).map Color.hex) = some "#050505".toList := by
    decide +kernel
  obtain ⟨candidate, found, hex_eq⟩ := Option.map_eq_some_iff.mp first
  have member := List.mem_of_find?_eq_some found
  have reaches : 1.01 ≤ candidate.contrast ink := by simpa using List.find?_some found
  obtain ⟨literal, named⟩ :=
    (suggested_colors_pass.2.2.2 ink ink 1.01).mpr ⟨candidate, member, reaches⟩
  obtain ⟨color, same, rfl⟩ := Color.repair_names_iff.mp named
  obtain rfl := Option.some.inj (found.symm.trans same)
  rwa [hex_eq] at named

end CssAudit
