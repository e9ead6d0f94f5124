import CssAudit.Accessibility.Typography
import CssAudit.Proofs.Numeral.Integer

/-!
# Weights that cannot be read

A font weight of figures is read as an integer, and the reading fails if one of them is
no decimal digit or if there are too many.  The size of a text decides whether its
weight is looked at: text that is large by its size alone is large at any weight.
-/

namespace CssAudit

namespace Typography

/-- Whether a font weight is taken for an integer and is none within the limit. -/
structure IsUnreadable (weight : Text) : Prop where
  nonempty : weight ≠ []
  figures : ∀ c ∈ weight, Text.isFigure c = true
  beyond : (∀ c ∈ weight, Text.isDecimal c = true) → Numeral.digitLimit < weight.length

/-- Whether a font weight is an integer of more digits than are read. -/
structure IsOverlong (weight : Text) : Prop where
  decimals : ∀ c ∈ weight, Text.isDecimal c = true
  long : Numeral.digitLimit < weight.length

/-- The size of the text of declarations, in pixels. -/
def textSize (declarations : OrderedMap Text Text) : Float :=
  ((OrderedMap.get? declarations "font-size".toList).bind fontSize?).getD defaultSize

/-- Whether the size of a text depends on a weight that cannot be read. -/
structure DependsOnUnreadable (declarations : OrderedMap Text Text) : Prop where
  small : ¬ largeSize ≤ textSize declarations
  weight : ∃ raw, OrderedMap.get? declarations "font-weight".toList = some raw ∧
    IsUnreadable (Text.lower (Text.trim raw))

theorem isBold_returns_iff {raw : Text} :
    Batch.Returns (isBold raw) ↔ ¬ IsUnreadable (Text.lower (Text.trim raw)) := by
  unfold isBold
  generalize Text.lower (Text.trim raw) = weight
  dsimp only
  by_cases keyword : (weight = "bold".toList || weight = "bolder".toList) = true
  · rw [if_pos keyword]
    simp only [Batch.returns_ok, true_iff]
    intro unreadable
    have letter : 'b' ∈ weight := by
      rw [Bool.or_eq_true, decide_eq_true_eq, decide_eq_true_eq] at keyword
      rcases keyword with rfl | rfl <;> decide
    exact absurd (unreadable.figures 'b' letter) (by decide)
  · rw [if_neg keyword]
    by_cases figured : (!weight.isEmpty && weight.all Text.isFigure) = true
    · rw [if_pos figured, Batch.returns_map_iff]
      simp only [Bool.and_eq_true, Bool.not_eq_true', List.isEmpty_eq_false_iff,
        List.all_eq_true] at figured
      obtain ⟨nonempty, figures⟩ := figured
      rw [Numeral.readInteger_of_figures_iff nonempty figures]
      constructor
      · rintro ⟨decimals, short⟩ unreadable
        exact absurd (unreadable.beyond decimals) (Nat.not_lt_of_le short)
      · intro readable
        by_contra refused
        rw [not_and, Nat.not_le] at refused
        exact readable ⟨nonempty, figures, refused⟩
    · rw [if_neg figured]
      simp only [Batch.returns_ok, true_iff]
      intro unreadable
      exact figured (by simpa [unreadable.nonempty] using unreadable.figures)

theorem isBoldIfDeclared_returns_iff {raw? : Option Text} :
    Batch.Returns (isBoldIfDeclared raw?) ↔
      ¬ ∃ raw, raw? = some raw ∧ IsUnreadable (Text.lower (Text.trim raw)) := by
  cases raw? with
  | none => simp [isBoldIfDeclared]
  | some raw => simp [isBoldIfDeclared, isBold_returns_iff]

theorem isLarge_returns_iff {declarations : OrderedMap Text Text} :
    Batch.Returns (isLarge declarations) ↔ ¬ DependsOnUnreadable declarations := by
  have unfolded : isLarge declarations =
      if largeSize ≤ textSize declarations then .ok true
      else (isBoldIfDeclared (OrderedMap.get? declarations "font-weight".toList)).map
        fun bold => bold && largeBoldSize ≤ textSize declarations := rfl
  rw [unfolded]
  by_cases large : largeSize ≤ textSize declarations
  · rw [if_pos large]
    simp only [Batch.returns_ok, true_iff]
    exact fun depends => depends.small large
  · rw [if_neg large, Batch.returns_map_iff, isBoldIfDeclared_returns_iff]
    exact not_congr ⟨fun weight => ⟨large, weight⟩, fun depends => depends.weight⟩

end Typography

end CssAudit
