import CssAudit.Numeral.Integer
import CssAudit.Proofs.Batch
import CssAudit.Proofs.Text.Figure
import Mathlib.Data.List.TakeWhile

/-!
# Reading and writing integers

A text of figures is read as an integer exactly if all of them are decimal digits and
there are no more of them than the limit.  An integer is written exactly if its digits
keep to the same limit.
-/

namespace CssAudit

namespace Numeral

open Text

theorem digitRun_of_figures {text : Text} (figures : ∀ c ∈ text, isFigure c = true) :
    ∃ digits, digitRun true text = some (digits, text.dropWhile isDecimal) ∧
      digits.length = (text.takeWhile isDecimal).length := by
  induction text with
  | nil => exact ⟨[], rfl, rfl⟩
  | cons c rest ih =>
      obtain ⟨figure, others⟩ := List.forall_mem_cons.mp figures
      cases value : digitValue? c with
      | some digit =>
          obtain ⟨digits, ran, count⟩ := ih others
          have decimal : isDecimal c = true := by simp [isDecimal, value]
          refine ⟨digit :: digits, ?_, ?_⟩
          · simp [digitRun, value, ran, decimal]
          · simp [decimal, count]
      | none =>
          have foreign : isDecimal c = false := by simp [isDecimal, value]
          have joined : c ≠ '_' := by
            rintro rfl
            exact absurd figure (by decide)
          exact ⟨[], by simp [digitRun, value, joined, foreign], by simp [foreign]⟩

/-- Only decimal digits leave nothing but a margin behind their run. -/
theorem all_isMargin_dropWhile_iff {text : Text} (figures : ∀ c ∈ text, isFigure c = true) :
    (text.dropWhile isDecimal).all isMargin = true ↔ ∀ c ∈ text, isDecimal c = true := by
  rw [← List.dropWhile_eq_nil_iff]
  constructor
  · intro margin
    by_contra more
    obtain ⟨c, rest, shape⟩ := List.exists_cons_of_ne_nil more
    have member : c ∈ text.dropWhile isDecimal := by simp [shape]
    have figure := figures c ((List.dropWhile_sublist isDecimal).subset member)
    have blank := List.all_eq_true.mp margin c member
    simp [isMargin, isBlank_of_isFigure figure] at blank
  · intro empty
    rw [empty]
    rfl

theorem digitRun_false_of_ne_nil {text : Text} (nonempty : text ≠ []) : digitRun false text =
    if text.head?.any isDecimal then digitRun true text else none := by
  obtain ⟨c, rest, rfl⟩ := List.exists_cons_of_ne_nil nonempty
  cases value : digitValue? c <;> simp [digitRun, value, isDecimal]

section Figures

variable {text : Text} (nonempty : text ≠ []) (figures : ∀ c ∈ text, isFigure c = true)
include nonempty figures

theorem splitSign_of_figures : splitSign (text.dropWhile isMargin) = (false, text) := by
  obtain ⟨c, rest, rfl⟩ := List.exists_cons_of_ne_nil nonempty
  have figure : isFigure c = true := figures c List.mem_cons_self
  have solid : isMargin c = false := by simp [isMargin, isBlank_of_isFigure figure]
  rw [List.dropWhile_cons_of_neg (by simp [solid])]
  have unsigned : c ≠ '-' ∧ c ≠ '+' := by
    constructor <;>
      · rintro rfl
        exact absurd figure (by decide)
  simp [splitSign, unsigned]

theorem readInteger_of_figures_iff :
    Batch.Returns (readInteger text) ↔
      (∀ c ∈ text, isDecimal c = true) ∧ text.length ≤ digitLimit := by
  obtain ⟨digits, ran, count⟩ := digitRun_of_figures figures
  have start := digitRun_false_of_ne_nil nonempty
  have margin := all_isMargin_dropWhile_iff figures
  -- A run of digits begins only at a decimal one; the rest of the figures is no margin.
  by_cases first : text.head?.any isDecimal = true
  · rw [if_pos first, ran] at start
    simp only [readInteger, splitSign_of_figures nonempty figures, start]
    constructor
    · rintro ⟨n, read⟩
      split at read
      · exact absurd read (by simp)
      split at read
      · exact absurd read (by simp)
      rename_i short settled
      have decimals := margin.mp (by simpa using settled)
      rw [count, List.takeWhile_eq_self_iff.mpr decimals] at short
      exact ⟨decimals, Nat.le_of_not_lt short⟩
    · rintro ⟨decimals, short⟩
      have within : ¬ digitLimit < digits.length := by
        rw [count, List.takeWhile_eq_self_iff.mpr decimals]
        exact Nat.not_lt_of_le short
      rw [if_neg within, if_neg (by simp [margin.mpr decimals])]
      exact ⟨_, rfl⟩
  · rw [if_neg first] at start
    simp only [readInteger, splitSign_of_figures nonempty figures, start,
      Batch.not_returns_error, false_iff]
    rintro ⟨decimals, _⟩
    obtain ⟨c, rest, rfl⟩ := List.exists_cons_of_ne_nil nonempty
    exact first (by simpa using decimals c List.mem_cons_self)

end Figures

theorem writeInteger_returns_iff {n : Int} :
    Batch.Returns (writeInteger n) ↔ n.natAbs < Nat.pow 10 digitLimit := by
  unfold writeInteger
  split
  · rename_i short
    simpa using short
  · rename_i long
    simpa using long

end Numeral

end CssAudit
