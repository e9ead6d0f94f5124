import CssAudit.Text.Basic

/-!
# Comments

A comment runs from its opening to the first closing after it and is removed.
An opening that nothing closes is ordinary text.
-/

namespace CssAudit

namespace Stylesheet

/-- The text without comments, read outside or inside a comment; there is none
if the text ends inside. -/
def stripFrom (inside : Bool) : Text → Option Text
  | [] => if inside then none else some []
  | '/' :: '*' :: rest =>
      if inside then stripFrom true ('*' :: rest)
      else some ((stripFrom true rest).getD ('/' :: '*' :: rest))
  | '*' :: '/' :: rest =>
      if inside then stripFrom false rest
      else (stripFrom false ('/' :: rest)).map ('*' :: ·)
  | c :: rest =>
      if inside then stripFrom true rest else (stripFrom false rest).map (c :: ·)

def stripComments (text : Text) : Text :=
  (stripFrom false text).getD text

theorem stripFrom_of_no_opening (text : Text) (absent : ¬ ['/', '*'] <:+: text) :
    stripFrom false text = some text := by
  induction text with
  | nil => rfl
  | cons c rest ih =>
      have tail := ih fun within => absent (within.trans (List.suffix_cons c rest).isInfix)
      unfold stripFrom
      split
      · simp_all
      · rename_i after shape
        exact absurd (shape ▸ (List.prefix_append ['/', '*'] after).isInfix) absent
      · simp_all
      · simp_all

theorem stripComments_eq_self {text : Text} (absent : ¬ ['/', '*'] <:+: text) :
    stripComments text = text := by
  rw [stripComments, stripFrom_of_no_opening text absent, Option.getD_some]

end Stylesheet

end CssAudit
