import CssAudit.Accessibility.Check
import CssAudit.Proofs.Batch
import CssAudit.Proofs.Stylesheet.Rules

/-!
# Whose flag a name carries

Of several declarations of a name the last one gives the value, but any of them flags the
name.  Importance therefore follows the value that is kept, unless the kept declaration has
no flag and one that it overrides has.  This is so in the rules of a style sheet and in the
rule that a batch comes to.
-/

namespace CssAudit

open Stylesheet

/-- How a rule attributes flags: each of its values is that of a declaration which counts for
its name, and the name is flagged as that declaration is, unless the flag is another's. -/
structure AttributesFlags (written : List (Text × Text)) (rule : StyleRule) : Prop where
  kept : ∀ name ∈ rule.declarations.map (·.1), ∃ value, Prevails written (name, value) ∧
    (name, (splitImportant value).1) ∈ rule.declarations
  follows_iff : ∀ name value, Prevails written (name, value) →
    ((name ∈ rule.important ↔ EndsImportant value) ↔
      (EndsImportant value ∨ ∀ other, (name, other) ∈ written → ¬ EndsImportant other))

theorem attributesFlags_ofDeclarations (selector : Text) (written : List (Text × Text)) :
    AttributesFlags written (.ofDeclarations selector written) where
  kept name member := by
    obtain ⟨⟨_, value⟩, declared, rfl⟩ := List.mem_map.mp member
    obtain ⟨kept, prevails, rfl⟩ := mem_declarations_iff.mp declared
    exact ⟨kept, prevails, declared⟩
  follows_iff name value prevails := by
    rw [mem_important_iff]
    constructor
    · intro follows
      by_cases flagged : EndsImportant value
      · exact .inl flagged
      · exact .inr fun other member other_flagged =>
          flagged (follows.mp ⟨other, member, other_flagged⟩)
    · rintro (flagged | unflagged)
      · exact iff_of_true ⟨value, prevails.mem, flagged⟩ flagged
      · refine iff_of_false ?_ (unflagged value prevails.mem)
        rintro ⟨other, member, other_flagged⟩
        exact unflagged other member other_flagged

theorem Check.ruleOf_eq_ok_iff {batch : Batch} {selector : Option Text} {rule : StyleRule} :
    Check.ruleOf batch selector = .ok rule ↔
      ∃ usable, batch.mapM Check.declaration? = .ok usable ∧
        rule = .ofDeclarations (Text.trim (selector.getD [])) (usable.filterMap id) := by
  rw [Check.ruleOf, Batch.bind_eq_ok_iff]
  simp only [Except.ok.injEq, eq_comm]

/-- Importance follows the kept value, in every rule of a style sheet and in the rule of
every batch, exactly for the names whose kept declaration is flagged or which have no
flagged declaration at all. -/
theorem importance_follows_iff (source : Text) (batch : Batch) (selector : Option Text) :
    (∀ rule ∈ (Stylesheet.parse source).rules, ∃ head body,
      (head, body) ∈ blocks (chunks (stripComments source)) ∧ rule? (head, body) = some rule ∧
        AttributesFlags (declarationsOf body) rule) ∧
      ∀ rule, Check.ruleOf batch selector = .ok rule →
        ∃ usable, batch.mapM Check.declaration? = .ok usable ∧
          AttributesFlags (usable.filterMap id) rule := by
  constructor
  · intro rule member
    obtain ⟨⟨head, body⟩, block_mem, read⟩ := List.mem_filterMap.mp member
    obtain ⟨-, -, -, rfl⟩ := rule?_eq_some_iff.mp read
    exact ⟨head, body, block_mem, read, attributesFlags_ofDeclarations _ _⟩
  · intro rule ran
    obtain ⟨usable, usable_eq, rfl⟩ := Check.ruleOf_eq_ok_iff.mp ran
    exact ⟨usable, usable_eq, attributesFlags_ofDeclarations _ _⟩

/-- The flag of an overridden red is left with the blue that overrides it, in a style sheet
and in a batch. -/
theorem importance_follows_iff_on_overridden_flag :
    ∃ rule : StyleRule, rule.declarations = [("color".toList, "blue".toList)] ∧
      rule.important = ["color".toList] ∧
      rule ∈ (Stylesheet.parse
        "a \x7b color: red !important; color: blue \x7d".toList).rules ∧
      Check.ruleOf (Batch.ofTexts [("COLOR".toList, "red !important".toList),
        ("color".toList, "blue".toList)]) (some "a".toList) = .ok rule ∧
      AttributesFlags (declarationsOf " color: red !important; color: blue ".toList) rule ∧
      AttributesFlags [("color".toList, "red !important".toList),
        ("color".toList, "blue".toList)] rule := by
  let rule : StyleRule := ⟨"a".toList, [("color".toList, "blue".toList)], ["color".toList]⟩
  obtain ⟨in_sheet, in_batch⟩ := importance_follows_iff
    "a \x7b color: red !important; color: blue \x7d".toList
    (Batch.ofTexts [("COLOR".toList, "red !important".toList),
      ("color".toList, "blue".toList)]) (some "a".toList)
  have read : (Stylesheet.parse
      "a \x7b color: red !important; color: blue \x7d".toList).rules = [rule] := rfl
  have member : rule ∈ (Stylesheet.parse
      "a \x7b color: red !important; color: blue \x7d".toList).rules := by
    rw [read]
    exact List.mem_singleton_self rule
  have ran : Check.ruleOf (Batch.ofTexts [("COLOR".toList, "red !important".toList),
      ("color".toList, "blue".toList)]) (some "a".toList) = .ok rule := rfl
  obtain ⟨head, body, block_mem, -, sheet_flags⟩ := in_sheet rule member
  obtain ⟨usable, usable_eq, batch_flags⟩ := in_batch rule ran
  have only : blocks (chunks (stripComments
      "a \x7b color: red !important; color: blue \x7d".toList)) =
        [("a ".toList, " color: red !important; color: blue ".toList)] := rfl
  rw [only, List.mem_singleton] at block_mem
  obtain ⟨rfl, rfl⟩ := Prod.mk.inj block_mem
  have written : (Batch.ofTexts [("COLOR".toList, "red !important".toList),
      ("color".toList, "blue".toList)]).mapM Check.declaration? =
        .ok [some ("color".toList, "red !important".toList),
          some ("color".toList, "blue".toList)] := rfl
  obtain rfl := Except.ok.inj (written.symm.trans usable_eq)
  exact ⟨rule, rfl, rfl, member, ran, sheet_flags, batch_flags⟩

end CssAudit
