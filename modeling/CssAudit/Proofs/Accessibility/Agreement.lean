import CssAudit.Proofs.Accessibility.Returning
import CssAudit.Proofs.Stylesheet.Flattening

/-!
# Batches and style sheets agree

A batch of declarations is checked as a rule block under the selector of its context.
Written out under that selector and checked as a style sheet, the same declarations come
to the same rule block, whatever flags and blanks their values carry.
-/

namespace CssAudit

namespace Stylesheet

/-- A rule with a normalised selector, and declarations of distinct names whose values
are kept as they are written. -/
structure WrittenRule where
  selector : Text
  declarations : List (Text × Text)
  nonempty : selector ≠ []
  normalised : Text.collapse selector = selector
  plain : selector.head? ≠ some '@'
  enclosed : IsEnclosed selector
  declares : declarations ≠ []
  distinct : OrderedMap.Distinct declarations
  renderable : ∀ declaration ∈ declarations, IsRenderable declaration
  values_enclosed : ∀ declaration ∈ declarations, IsEnclosed declaration.2

/-- Declarations as they are written in a block, a semicolon and a space behind each. -/
def writeBody (declarations : List (Text × Text)) : Text :=
  declarations.flatMap fun declaration => piece declaration ++ "; ".toList

/-- The text of a rule on one line. -/
def WrittenRule.text (rule : WrittenRule) : Text :=
  rule.selector ++ " \x7b ".toList ++ writeBody rule.declarations ++ "\x7d".toList

theorem writeBody_cons (declaration : Text × Text) (others : List (Text × Text)) :
    writeBody (declaration :: others) =
      piece declaration ++ ';' :: ' ' :: writeBody others := by
  simp [writeBody]

section Body

variable {declarations : List (Text × Text)}
  (renderable : ∀ declaration ∈ declarations, IsRenderable declaration)
  (enclosed : ∀ declaration ∈ declarations, IsEnclosed declaration.2)
include renderable enclosed

theorem isEnclosed_piece {declaration : Text × Text} (member : declaration ∈ declarations) :
    IsEnclosed (piece declaration) := by
  have name {c : Char} (foreign : Gate.isNameChar c = false) : c ∉ declaration.1 :=
    (renderable declaration member).not_mem_name foreign
  obtain ⟨unbraced, unseparated, uncommented⟩ := enclosed declaration member
  refine ⟨⟨?_, ?_⟩, (renderable declaration member).not_mem_piece unseparated,
    (renderable declaration member).not_opensComment_piece uncommented⟩
  · simp [piece, name (c := '{') (by decide), unbraced.1]
  · simp [piece, name (c := '}') (by decide), unbraced.2]

theorem writeBody_unbraced : Unbraced (writeBody declarations) := by
  induction declarations with
  | nil => decide
  | cons declaration others ih =>
      obtain ⟨_, others_renderable⟩ := List.forall_mem_cons.mp renderable
      obtain ⟨_, others_enclosed⟩ := List.forall_mem_cons.mp enclosed
      have first := (isEnclosed_piece renderable enclosed List.mem_cons_self).unbraced
      have separator : Unbraced [';', ' '] := by decide
      rw [writeBody_cons]
      exact first.append (separator.append (ih others_renderable others_enclosed))

theorem writeBody_not_opensComment : ¬ OpensComment (writeBody declarations) := by
  induction declarations with
  | nil => decide
  | cons declaration others ih =>
      obtain ⟨_, others_renderable⟩ := List.forall_mem_cons.mp renderable
      obtain ⟨_, others_enclosed⟩ := List.forall_mem_cons.mp enclosed
      have first := (isEnclosed_piece renderable enclosed List.mem_cons_self).uncommented
      rw [writeBody_cons]
      exact not_opensComment_append_cons (by decide) first
        (not_opensComment_gap_append Text.isGap_space (ih others_renderable others_enclosed))

theorem declarationsOf_writeBody : declarationsOf (writeBody declarations) = declarations := by
  induction declarations with
  | nil => exact declarationsOf_of_isGap Text.isGap_nil
  | cons declaration others ih =>
      obtain ⟨first, others_renderable⟩ := List.forall_mem_cons.mp renderable
      obtain ⟨first_enclosed, others_enclosed⟩ := List.forall_mem_cons.mp enclosed
      rw [writeBody_cons, declarationsOf_append,
        first.declarationsOf_piece first_enclosed.unseparated,
        declarationsOf_cons_blank (by decide), ih others_renderable others_enclosed,
        List.singleton_append]

end Body

/-- A text that encloses a rule is read as that rule. -/
theorem WrittenRule.parse_text (rule : WrittenRule) :
    parse rule.text = ⟨[.ofDeclarations rule.selector rule.declarations]⟩ := by
  have space : Text.IsGap [' '] := Text.isGap_space
  have body_unbraced : Unbraced (' ' :: writeBody rule.declarations) :=
    (unbraced_of_isGap space).append (writeBody_unbraced rule.renderable rule.values_enclosed)
  have head_unbraced : Unbraced (rule.selector ++ [' ']) :=
    rule.enclosed.unbraced.append (unbraced_of_isGap space)
  have shape : rule.text =
      (rule.selector ++ [' ']) ++ '{' :: ((' ' :: writeBody rule.declarations) ++ '}' :: []) := by
    simp [WrittenRule.text]
  have uncommented : ¬ OpensComment rule.text := by
    rw [shape]
    exact not_opensComment_append_cons (by decide)
      (not_opensComment_append_gap space rule.enclosed.uncommented)
      (not_opensComment_append_cons (by decide)
        (not_opensComment_gap_append space
          (writeBody_not_opensComment rule.renderable rule.values_enclosed))
        (by decide))
  have found : selectorBefore (rule.selector ++ [' ']) = rule.selector := by
    have unseparated : ';' ∉ rule.selector ++ [' '] := by simp [rule.enclosed.unseparated]
    exact (idle_nil.selectorBefore_append unseparated).trans
      ((space.trim_after rule.selector).trans (Text.trim_eq_self_of_collapse rule.normalised))
  have read : rule? (rule.selector ++ [' '], ' ' :: writeBody rule.declarations) =
      some (.ofDeclarations rule.selector rule.declarations) := by
    rw [rule?_of_selector found rule.nonempty rule.plain, rule.normalised,
      declarationsOf_cons_blank (by decide),
      declarationsOf_writeBody rule.renderable rule.values_enclosed]
    simp [StyleRule.declarations_ofDeclarations rule.distinct, rule.declares]
  have rules_eq : (parse rule.text).rules =
      [.ofDeclarations rule.selector rule.declarations] := by
    rw [parse_rules, stripComments_eq_self uncommented, shape,
      rulesIn_block (by simp) head_unbraced body_unbraced, read]
    rfl
  rw [← rules_eq]

end Stylesheet

namespace Check

open Stylesheet

theorem sheet_singleton (rule : StyleRule) (context : Context) :
    Check.sheet ⟨[rule]⟩ context =
      (blockIssues rule { context with selector := some rule.selector }).bind fun issues =>
        .ok ⟨issues ++ sheetIssues ⟨[rule]⟩⟩ := by
  simp only [Check.sheet, List.mapM_cons, List.mapM_nil]
  cases blockIssues rule { context with selector := some rule.selector } with
  | error cause => rfl
  | ok issues => simp [bind, Except.bind, pure, Except.pure]

/-- Declarations checked under a selector and the style sheet that spells them out come
to the same issues in the same order, or to the same error. -/
theorem declarations_eq_stylesheet (rule : WrittenRule) (context : Context) :
    Check.declarations (Batch.ofTexts rule.declarations)
        { context with selector := some rule.selector } =
      Check.stylesheet rule.text context := by
  have block := ruleOf_ofTexts (fun declaration member =>
    (rule.renderable declaration member).name_chars) (some rule.selector)
  rw [Option.getD_some, Text.trim_eq_self_of_collapse rule.normalised] at block
  rw [Check.declarations, block, Check.stylesheet, rule.parse_text, sheet_singleton]
  rfl

/-- A flag behind a value, and one that leaves no value behind. -/
theorem declarations_eq_stylesheet_on_flags :
    ∃ rule : WrittenRule,
      rule.text = ("a:focus \x7b outline: none ! IMPORTANT; border: !important; \x7d").toList ∧
      Check.stylesheet rule.text {} = .ok ⟨[Rules.outlineReplaced
        (.ofDeclarations "a:focus".toList [])]⟩ ∧
      Check.declarations (Batch.ofTexts [("outline".toList, "none ! IMPORTANT".toList),
          ("border".toList, "!important".toList)]) { selector := some "a:focus".toList } =
        .ok ⟨[Rules.outlineReplaced (.ofDeclarations "a:focus".toList [])]⟩ := by
  let rule : WrittenRule :=
    { selector := "a:focus".toList
      declarations := [("outline".toList, "none ! IMPORTANT".toList),
        ("border".toList, "!important".toList)]
      nonempty := by decide
      normalised := by decide
      plain := by decide
      enclosed := by decide
      declares := by decide
      distinct := by decide
      renderable := by decide
      values_enclosed := by decide }
  have checked : Check.declarations (Batch.ofTexts [("outline".toList, "none ! IMPORTANT".toList),
      ("border".toList, "!important".toList)]) { selector := some "a:focus".toList } =
        .ok ⟨[Rules.outlineReplaced (.ofDeclarations "a:focus".toList [])]⟩ := rfl
  exact ⟨rule, rfl, (declarations_eq_stylesheet rule {}).symm.trans checked, checked⟩

end Check

end CssAudit
