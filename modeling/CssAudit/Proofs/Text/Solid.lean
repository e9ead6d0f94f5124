import CssAudit.Proofs.Text.Folded
import CssAudit.Proofs.Text.Small
import CssAudit.Proofs.Text.Trim

/-!
# Lower case makes no blanks

The lower-case form of a character that is not blank holds no blanks.  A trimmed text
therefore stays trimmed in lower case.
-/

namespace CssAudit

namespace Text

/-- Changing case does not lead to a blank from a character that is none. -/
theorem isBlank_shiftCase {c : Char} (solid : isBlank c = false) :
    isBlank (shiftCase lowerRuns c) = false := by
  have apart : Ranges.Apart (lowerRuns.map fun run =>
      ((run.first + run.offset).toNat, (run.last + run.offset).toNat)) blankRanges := by
    decide +kernel
  unfold shiftCase
  split
  · rename_i run found
    have covers := List.find?_some found
    simp only [CaseRun.covers, Bool.and_eq_true, decide_eq_true_eq] at covers
    rcases toNat_ofNat_cases (c.toNat + run.offset).toNat with code | code
    · refine apart.contains_eq_false (Ranges.contains_iff.mpr ⟨_,
        List.mem_map_of_mem (List.mem_of_find?_eq_some found), ?_⟩)
      rw [code]
      constructor <;> dsimp only <;> omega
    · have none : Char.ofNat (c.toNat + run.offset).toNat = '\x00' := by
        rw [← Char.ofNat_toNat (Char.ofNat (c.toNat + run.offset).toNat), code]
      rw [none]
      decide
  · exact solid

theorem isBlank_of_mem_lowerChar {c d : Char} (solid : isBlank c = false)
    (image : d ∈ lowerChar c) : isBlank d = false := by
  unfold lowerChar at image
  split at image
  · rw [List.mem_singleton.mp image, isBlank_toLower]
    exact solid
  · split at image
    · obtain rfl | rfl : d = 'i' ∨ d = '\u0307' := by simpa using image
      · decide
      · decide
    · rw [List.mem_singleton.mp image]
      exact isBlank_shiftCase solid

theorem exists_image_lowerAfter (afterCased : Bool) (c : Char) (rest : Text) :
    ∃ image later, lowerAfter afterCased (c :: rest) = image ++ lowerAfter later rest ∧
      image ≠ [] ∧ (isBlank c = false → ∀ d ∈ image, isBlank d = false) := by
  refine ⟨_, _, rfl, ?_, fun solid d member => ?_⟩
  · split
    · split <;> simp
    · exact lowerChar_ne_nil c
  · split at member
    · split at member
      · rw [List.mem_singleton.mp member]
        decide
      · rw [List.mem_singleton.mp member]
        decide
    · exact isBlank_of_mem_lowerChar solid member

theorem lowerAfter_ne_nil (afterCased : Bool) {text : Text} (nonempty : text ≠ []) :
    lowerAfter afterCased text ≠ [] := by
  obtain ⟨c, rest, rfl⟩ := List.exists_cons_of_ne_nil nonempty
  obtain ⟨image, later, shape, image_nonempty, -⟩ := exists_image_lowerAfter afterCased c rest
  rw [shape]
  exact List.append_ne_nil_of_left_ne_nil image_nonempty _

theorem head?_lowerAfter {text : Text} (afterCased : Bool)
    (starts : ∀ c, text.head? = some c → isBlank c = false) :
    ∀ d, (lowerAfter afterCased text).head? = some d → isBlank d = false := by
  intro d first
  cases text with
  | nil => exact absurd first (by simp [lowerAfter])
  | cons c rest =>
      obtain ⟨image, later, shape, nonempty, solid⟩ := exists_image_lowerAfter afterCased c rest
      rw [shape, List.head?_append_of_ne_nil _ nonempty] at first
      exact solid (starts c rfl) d (List.mem_of_mem_head? first)

theorem getLast?_lowerAfter {text : Text} (afterCased : Bool)
    (ends : ∀ c, text.getLast? = some c → isBlank c = false) :
    ∀ d, (lowerAfter afterCased text).getLast? = some d → isBlank d = false := by
  induction text generalizing afterCased with
  | nil => simp [lowerAfter]
  | cons c rest ih =>
      intro d last
      obtain ⟨image, later, shape, nonempty, solid⟩ := exists_image_lowerAfter afterCased c rest
      rw [shape] at last
      by_cases final : rest = []
      · subst final
        rw [lowerAfter, List.append_nil] at last
        exact solid (ends c rfl) d (List.mem_of_mem_getLast? last)
      · rw [List.getLast?_append_of_ne_nil _ (lowerAfter_ne_nil later final)] at last
        rw [List.getLast?_cons_of_ne_nil final] at ends
        exact ih later ends d last

theorem trim_lower_trim (text : Text) : trim (lower (trim text)) = lower (trim text) :=
  trim_eq_self (head?_lowerAfter false head?_trim) (getLast?_lowerAfter false getLast?_trim)

end Text

end CssAudit
