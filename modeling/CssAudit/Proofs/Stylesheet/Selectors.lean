import CssAudit.Proofs.Text.Lowering
import CssAudit.Stylesheet.Selector

/-!
# Selector lists

The rules ask about a selector list what they ask about its members: a list targets
focused elements, targets links or is global exactly if one of its members does or is.
A comma ends every word, so the members of a list are lowered on their own, and what is
searched for lies on one side of it.
-/

namespace CssAudit

namespace Text

section Divider

variable {c : Char} (uncased : isCased c = false) (heeded : isCaseIgnorable c = false)
include uncased heeded

theorem startsCased_append_divider (before after : Text) :
    startsCased (before ++ c :: after) = startsCased before := by
  rw [startsCased, startsCased, List.dropWhile_append,
    List.dropWhile_cons_of_neg (by simp [heeded])]
  split
  · rename_i skipped
    simp [List.isEmpty_iff.mp skipped, uncased]
  · rename_i kept
    obtain ⟨d, rest, shape⟩ := List.exists_cons_of_ne_nil
      (fun empty => kept (List.isEmpty_iff.mpr empty))
    rw [shape]
    rfl

/-- A character that no word goes on behind divides a text into parts that are lowered
on their own. -/
theorem lowerAfter_append_divider (same : lowerChar c = [c]) (afterCased : Bool)
    (before after : Text) :
    lowerAfter afterCased (before ++ c :: after) =
      lowerAfter afterCased before ++ c :: lower after := by
  induction before generalizing afterCased with
  | nil =>
      have plain : c ≠ capitalSigma := by
        rintro rfl
        exact absurd uncased (by decide)
      simp [lowerAfter, plain, same, heeded, uncased, lower]
  | cons d before ih =>
      simp only [List.cons_append, lowerAfter, ih, List.append_assoc,
        startsCased_append_divider uncased heeded]

end Divider

theorem lower_append_comma (before after : Text) :
    lower (before ++ ',' :: after) = lower before ++ ',' :: lower after :=
  lowerAfter_append_divider (by decide) (by decide +kernel) (by decide) false before after

/-- A pattern occurs on one side of a character that it does not hold. -/
theorem occursIn_append_cons {pattern : Text} {separator : Char} (avoids : separator ∉ pattern)
    (before after : Text) :
    occursIn pattern (before ++ separator :: after) =
      (occursIn pattern before || occursIn pattern after) := by
  rw [Bool.eq_iff_iff, Bool.or_eq_true]
  simp only [occursIn_eq_true_iff]
  constructor
  · exact infix_of_infix_append_cons avoids
  · rintro (left | right)
    · exact left.trans (List.prefix_append _ _).isInfix
    · exact right.trans (List.infix_cons (List.suffix_refl after).isInfix |>.trans
        (List.suffix_append before _).isInfix)

end Text

namespace Selector

/-- A name ends before a comma as it does at the end of the text. -/
theorem endsName_append_comma (before after : Text) :
    endsName (before ++ ',' :: after) = endsName before := by
  cases before with
  | nil => rfl
  | cons c before => rfl

/-- A name begins behind a comma as it does at the start of a text. -/
theorem hasAnchor_append_comma (mayBegin : Bool) (before after : Text) :
    hasAnchor mayBegin (before ++ ',' :: after) =
      (hasAnchor mayBegin before || hasAnchor true after) := by
  induction before generalizing mayBegin with
  | nil =>
      have begins : beginsName ',' = true := by decide
      simp [hasAnchor, begins]
  | cons c before ih =>
      simp only [List.cons_append, hasAnchor, endsName_append_comma, ih, Bool.or_assoc]

theorem targetsFocus_append_comma (first second : Text) :
    targetsFocus (first ++ ',' :: second) = (targetsFocus first || targetsFocus second) := by
  rw [targetsFocus, Text.lower_append_comma, Text.occursIn_append_cons (by decide),
    targetsFocus, targetsFocus]

theorem targetsLink_append_comma (first second : Text) :
    targetsLink (first ++ ',' :: second) = (targetsLink first || targetsLink second) := by
  rw [targetsLink, Text.lower_append_comma, Text.occursIn_append_cons (by decide),
    hasAnchor_append_comma, targetsLink, targetsLink]
  -- The two tests of a member are asked one after the other of both members.
  ac_rfl

theorem isGlobal_append_comma (first second : Text) :
    isGlobal (first ++ ',' :: second) = (isGlobal first || isGlobal second) := by
  rw [isGlobal, Text.splitOn_append_separator, List.any_append, isGlobal, isGlobal]

/-- A selector list targets focused elements, targets links or is global exactly if one of
its two parts does or is, whatever texts the parts are. -/
theorem asks_list_as_members (first second : Text) :
    (targetsFocus (first ++ ',' :: second) = true ↔
        targetsFocus first = true ∨ targetsFocus second = true) ∧
      (targetsLink (first ++ ',' :: second) = true ↔
        targetsLink first = true ∨ targetsLink second = true) ∧
      (isGlobal (first ++ ',' :: second) = true ↔
        isGlobal first = true ∨ isGlobal second = true) := by
  simp only [targetsFocus_append_comma, targetsLink_append_comma, isGlobal_append_comma,
    Bool.or_eq_true, and_self]

end Selector

end CssAudit
