import CssAudit.Proofs.OrderedMap.Collection
import CssAudit.Proofs.Stylesheet.Blocks
import CssAudit.Proofs.Stylesheet.Importance
import CssAudit.Proofs.Stylesheet.RoundTrip
import CssAudit.Proofs.Text.Solid

/-!
# What the rules of a style sheet hold

The selector of a rule is in normal form and stands after all statements.  Its declared
names and values are trimmed, and no name is empty.  A value is empty exactly if the
declaration that counts for its name was an importance flag without a value.
-/

namespace CssAudit

namespace Stylesheet

/-- Whether a declaration counts for its name: it is the last one of that name. -/
def Prevails (written : List (Text × Text)) (declaration : Text × Text) : Prop :=
  IsLast (fun other => other.1 = declaration.1) written declaration

theorem Prevails.mem {written : List (Text × Text)} {declaration : Text × Text}
    (prevails : Prevails written declaration) : declaration ∈ written := by
  obtain ⟨before, after, rfl, -, -⟩ := prevails
  simp

section Collected

variable {selector : Text} {written : List (Text × Text)} {name value : Text}

theorem mem_declarations_iff :
    (name, value) ∈ (StyleRule.ofDeclarations selector written).declarations ↔
      ∃ kept, Prevails written (name, kept) ∧ value = (splitImportant kept).1 := by
  rw [StyleRule.declarations_eq, List.mem_map]
  constructor
  · rintro ⟨entry, member, same⟩
    obtain ⟨rfl, rfl⟩ := Prod.mk.inj same
    exact ⟨entry.2, OrderedMap.mem_ofList_iff.mp member, rfl⟩
  · rintro ⟨kept, prevails, rfl⟩
    exact ⟨(name, kept), OrderedMap.mem_ofList_iff.mpr prevails, rfl⟩

theorem mem_names_iff :
    name ∈ (StyleRule.ofDeclarations selector written).declarations.map (·.1) ↔
      name ∈ written.map (·.1) := by
  rw [StyleRule.declarations_eq, List.map_map]
  exact OrderedMap.mem_keys_ofList

/-- A name is flagged if any of its declarations is, whichever of them counts. -/
theorem mem_important_iff :
    name ∈ (StyleRule.ofDeclarations selector written).important ↔
      ∃ flagged, (name, flagged) ∈ written ∧ EndsImportant flagged := by
  simp [StyleRule.ofDeclarations, splitImportant_snd_iff]

end Collected

/-- A selector in normal form that stands after all statements and begins no at-rule. -/
structure IsSelector (selector : Text) : Prop where
  nonempty : selector ≠ []
  normalised : Text.collapse selector = selector
  unbraced : Unbraced selector
  unseparated : ';' ∉ selector
  plain : selector.head? ≠ some '@'

theorem isSelector_collapse {head : Text} (unbraced : Unbraced head)
    (nonempty : selectorBefore head ≠ []) (plain : (selectorBefore head).head? ≠ some '@') :
    IsSelector (Text.collapse (selectorBefore head)) := by
  have starts : (Text.collapse (selectorBefore head)).head? = (selectorBefore head).head? :=
    Text.head?_collapse Text.head?_trim
  have part : (selectorBefore head).Sublist head :=
    (Text.trim_sublist _).trans
      ((Text.afterLast_isSuffix ';' _).sublist.trans (Text.trim_sublist head))
  have separated : ';' ∉ selectorBefore head := fun member =>
    Text.not_mem_afterLast ';' _ ((Text.trim_sublist _).subset member)
  have absent {c : Char} (solid : Text.isBlank c = false) (outside : c ∉ selectorBefore head) :
      c ∉ Text.collapse (selectorBefore head) :=
    fun member => outside ((Text.mem_collapse solid).mp member)
  refine ⟨?_, Text.collapse_collapse _, ⟨?_, ?_⟩, ?_, ?_⟩
  · rw [← List.isSome_head?, starts, List.isSome_head?]
    exact nonempty
  · exact absent (by decide) fun member => unbraced.1 (part.subset member)
  · exact absent (by decide) fun member => unbraced.2 (part.subset member)
  · exact absent (by decide) separated
  · rwa [starts]

/-- What holds of every rule of a style sheet. -/
structure IsSound (rule : StyleRule) : Prop where
  isSelector : IsSelector rule.selector
  declares : rule.declarations ≠ []
  distinct : OrderedMap.Distinct rule.declarations
  named : ∀ declaration ∈ rule.declarations, declaration.1 ≠ []
  trimmed : ∀ declaration ∈ rule.declarations,
    Text.trim declaration.1 = declaration.1 ∧ Text.trim declaration.2 = declaration.2
  flags_declared : ∀ name ∈ rule.important, name ∈ rule.declarations.map (·.1)

theorem isSound_of_rule? {head body : Text} {rule : StyleRule} (unbraced : Unbraced head)
    (read : rule? (head, body) = some rule) : IsSound rule := by
  obtain ⟨nonempty, plain, declares, rfl⟩ := rule?_eq_some_iff.mp read
  have complete {name kept : Text} (prevails : Prevails (declarationsOf body) (name, kept)) :
      name ≠ [] ∧ Text.trim name = name :=
    name_of_mem_declarationsOf prevails.mem
  refine ⟨isSelector_collapse unbraced nonempty plain, declares, ?_, ?_, ?_, ?_⟩
  · rw [StyleRule.ofDeclarations]
    exact OrderedMap.distinct_ofList _
  · rintro ⟨name, value⟩ member
    obtain ⟨kept, prevails, -⟩ := mem_declarations_iff.mp member
    exact (complete prevails).1
  · rintro ⟨name, value⟩ member
    obtain ⟨kept, prevails, rfl⟩ := mem_declarations_iff.mp member
    exact ⟨(complete prevails).2, trim_splitImportant kept⟩
  · intro name member
    obtain ⟨flagged, flagged_mem, -⟩ := mem_important_iff.mp member
    exact mem_names_iff.mpr (List.mem_map_of_mem flagged_mem)

theorem declared_eq_nil_iff {body kept : Text} {name : Text}
    (prevails : Prevails (declarationsOf body) (name, kept)) :
    (splitImportant kept).1 = [] ↔ IsImportantFlag kept := by
  obtain ⟨text, -, read⟩ := List.mem_filterMap.mp prevails.mem
  obtain ⟨-, nonempty, trimmed⟩ := of_declaration? read
  exact splitImportant_eq_nil_iff nonempty trimmed

/-- A rule of a style sheet is sound, and declares what the last complete declarations of a
block leave.  It leaves no value empty exactly if none of them is a flag without a value. -/
theorem rules_spec {source : Text} {rule : StyleRule} (member : rule ∈ (parse source).rules) :
    IsSound rule ∧ ∃ head body,
      (head, body) ∈ blocks (chunks (stripComments source)) ∧ rule? (head, body) = some rule ∧
      (∀ name value, (name, value) ∈ rule.declarations ↔
        ∃ kept, Prevails (declarationsOf body) (name, kept) ∧ value = (splitImportant kept).1) ∧
      ((∀ declaration ∈ rule.declarations, declaration.2 ≠ []) ↔
        ∀ declaration, Prevails (declarationsOf body) declaration →
          ¬ IsImportantFlag declaration.2) := by
  obtain ⟨⟨head, body⟩, block_mem, read⟩ := List.mem_filterMap.mp member
  have sound := isSound_of_rule? (unbraced_of_mem_blocks block_mem) read
  obtain ⟨-, -, -, rfl⟩ := rule?_eq_some_iff.mp read
  refine ⟨sound, head, body, block_mem, read, fun name value => mem_declarations_iff, ?_⟩
  constructor
  · rintro filled ⟨name, kept⟩ prevails flag
    exact filled (name, (splitImportant kept).1) (mem_declarations_iff.mpr ⟨kept, prevails, rfl⟩)
      ((declared_eq_nil_iff prevails).mpr flag)
  · rintro unflagged ⟨name, value⟩ declared empty
    obtain ⟨kept, prevails, rfl⟩ := mem_declarations_iff.mp declared
    exact unflagged (name, kept) prevails ((declared_eq_nil_iff prevails).mp empty)

/-- A flag without a value counts for the color, and leaves it empty. -/
theorem rules_spec_on_bare_flag :
    ∃ rule ∈ (parse "@x; A  b \x7b color: red; top: 0; COLOR: !important \x7d".toList).rules,
      IsSound rule ∧ rule.declarations = [("color".toList, []), ("top".toList, "0".toList)] ∧
      ¬ ∀ name kept, Prevails (declarationsOf
        " color: red; top: 0; COLOR: !important ".toList) (name, kept) →
          ¬ IsImportantFlag kept := by
  let rule : StyleRule := ⟨"A b".toList, [("color".toList, []), ("top".toList, "0".toList)],
    ["color".toList]⟩
  have read : (parse "@x; A  b \x7b color: red; top: 0; COLOR: !important \x7d".toList).rules =
      [rule] := rfl
  have member : rule ∈
      (parse "@x; A  b \x7b color: red; top: 0; COLOR: !important \x7d".toList).rules := by
    rw [read]
    exact List.mem_singleton_self rule
  obtain ⟨sound, head, body, block_mem, -, -, filled_iff⟩ := rules_spec member
  have only : blocks (chunks (stripComments
      "@x; A  b \x7b color: red; top: 0; COLOR: !important \x7d".toList)) =
        [("@x; A  b ".toList, " color: red; top: 0; COLOR: !important ".toList)] := rfl
  rw [only, List.mem_singleton] at block_mem
  obtain ⟨rfl, rfl⟩ := Prod.mk.inj block_mem
  refine ⟨rule, member, sound, rfl, fun unflagged => ?_⟩
  exact filled_iff.mpr (fun declaration => unflagged declaration.1 declaration.2)
    ("color".toList, []) List.mem_cons_self rfl

end Stylesheet

end CssAudit
