import CssAudit.Proofs.Text.Collapse
import CssAudit.Text.Case

/-!
# Lower case character by character

The lower-case form of a text depends on neighbours only in the choice between
the two small sigmas.  A pattern without them therefore occurs in it exactly if
it occurs in the concatenated images of the single characters, which makes the
search for patterns indifferent to collapsing.
-/

namespace CssAudit

namespace Text

/-- The lower-case form of a character when no word ends after it. -/
def lowerImage (c : Char) : Text :=
  if c = capitalSigma then ['σ'] else lowerChar c

/-- The final sigma replaced by the other one. -/
def standardSigma (c : Char) : Char :=
  if c = 'ς' then 'σ' else c

theorem isLower_iff {c : Char} : c.isLower = true ↔ 97 ≤ c.toNat ∧ c.toNat ≤ 122 := by
  change (decide (c.val ≥ 97) && decide (c.val ≤ 122)) = true ↔ _
  rw [Bool.and_eq_true, decide_eq_true_eq, decide_eq_true_eq]
  exact Iff.rfl

theorem isUpper_iff {c : Char} : c.isUpper = true ↔ 65 ≤ c.toNat ∧ c.toNat ≤ 90 := by
  change decide (c.val ≥ 65 ∧ c.val ≤ 90) = true ↔ _
  rw [decide_eq_true_eq]
  exact Iff.rfl

theorem isDigit_iff {c : Char} : c.isDigit = true ↔ 48 ≤ c.toNat ∧ c.toNat ≤ 57 := by
  change (decide (c.val ≥ 48) && decide (c.val ≤ 57)) = true ↔ _
  rw [Bool.and_eq_true, decide_eq_true_eq, decide_eq_true_eq]
  exact Iff.rfl

theorem toLower_eq_self {c : Char} (small : ¬ (65 ≤ c.toNat ∧ c.toNat ≤ 90)) :
    c.toLower = c := by
  unfold Char.toLower
  split
  · rename_i upper
    exact absurd ⟨upper.1, upper.2⟩ small
  · rfl

/-- Whether a pattern has no sigma whose form could depend on its place. -/
def SigmaFree (pattern : Text) : Prop :=
  'σ' ∉ pattern ∧ 'ς' ∉ pattern

instance (pattern : Text) : Decidable (SigmaFree pattern) :=
  inferInstanceAs (Decidable ('σ' ∉ pattern ∧ 'ς' ∉ pattern))

theorem sigmaFree_singleton {c : Char} (small : c.toNat < 0x80) : SigmaFree [c] := by
  constructor <;>
    · intro sigma
      rw [← List.mem_singleton.mp sigma] at small
      exact absurd small (by decide)

theorem map_standardSigma_lowerAfter (afterCased : Bool) (text : Text) :
    (lowerAfter afterCased text).map standardSigma =
      (text.flatMap lowerImage).map standardSigma := by
  induction text generalizing afterCased with
  | nil => rfl
  | cons c rest ih =>
      rw [lowerAfter, List.flatMap_cons, List.map_append, List.map_append, ih]
      congr 1
      by_cases sigma : c = capitalSigma
      · simp only [sigma, lowerImage, if_true]
        split <;> rfl
      · simp only [sigma, lowerImage, if_false]

private theorem map_standardSigma_of_sigmaFree {pattern : Text}
    (free : SigmaFree pattern) : pattern.map standardSigma = pattern := by
  have fixed : ∀ c ∈ pattern, standardSigma c = id c := by
    intro c member
    have different : c ≠ 'ς' := fun final => free.2 (final ▸ member)
    simp [standardSigma, different]
  rw [List.map_congr_left fixed, List.map_id]

private theorem infix_map_standardSigma_iff {pattern text : Text}
    (free : SigmaFree pattern) :
    pattern <:+: text.map standardSigma ↔ pattern <:+: text := by
  constructor
  · intro within
    obtain ⟨source, inside, shape⟩ := List.infix_map_iff.mp within
    have unmoved : ∀ c ∈ source, standardSigma c = id c := by
      intro c member
      have image : standardSigma c ∈ pattern := by
        rw [shape]
        exact List.mem_map_of_mem member
      by_cases final : c = 'ς'
      · rw [final, standardSigma, if_pos rfl] at image
        exact absurd image free.1
      · simp [standardSigma, final]
    rw [List.map_congr_left unmoved, List.map_id] at shape
    exact shape ▸ inside
  · intro within
    have mapped := within.map standardSigma
    rwa [map_standardSigma_of_sigmaFree free] at mapped

/-- Patterns without sigmas occur in a lower-case form as they occur in the images
of the characters. -/
theorem infix_lower_iff {pattern text : Text} (free : SigmaFree pattern) :
    pattern <:+: lower text ↔ pattern <:+: text.flatMap lowerImage := by
  rw [← infix_map_standardSigma_iff free, lower, map_standardSigma_lowerAfter,
    infix_map_standardSigma_iff free]

private theorem flatMap_joinWith (image : Char → Text) (kept : image ' ' = [' '])
    (pieces : List Text) :
    (joinWith [' '] pieces).flatMap image =
      joinWith [' '] (pieces.map fun piece => piece.flatMap image) := by
  induction pieces with
  | nil => rfl
  | cons piece pieces ih =>
      cases pieces with
      | nil => rfl
      | cons next others =>
          have follows : (next :: others).map (fun piece => piece.flatMap image) ≠ [] := by
            simp
          rw [joinWith_cons _ _ (List.cons_ne_nil next others), List.map_cons,
            joinWith_cons _ _ follows, ← ih]
          simp [List.flatMap_append, kept]

/-- A pattern without blanks or sigmas that occurs in the lower-case form of a
collapsed text occurs in that of the text itself. -/
theorem infix_lower_of_infix_lower_collapse {pattern text : Text}
    (nonempty : pattern ≠ []) (solid : ∀ c ∈ pattern, isBlank c = false)
    (free : SigmaFree pattern) (within : pattern <:+: lower (collapse text)) :
    pattern <:+: lower text := by
  have avoids : ∀ c ∈ [' '], c ∉ pattern := by
    intro c separates member
    rw [List.mem_singleton.mp separates] at member
    exact absurd (solid ' ' member) (by decide)
  rw [infix_lower_iff free, collapse, flatMap_joinWith _ (by decide)] at within
  obtain ⟨image, member, inside⟩ :=
    exists_infix_of_infix_joinWith nonempty (by simp) avoids within
  obtain ⟨word, word_member, rfl⟩ := List.mem_map.mp member
  rw [infix_lower_iff free]
  exact inside.trans ((infix_of_mem_words word_member).flatMap lowerImage)

theorem lower_eq_self_of_lowerChar {text : Text}
    (fixed : ∀ c ∈ text, c ≠ capitalSigma ∧ lowerChar c = [c]) : lower text = text := by
  suffices after : ∀ afterCased, lowerAfter afterCased text = text from after false
  intro afterCased
  induction text generalizing afterCased with
  | nil => rfl
  | cons c rest ih =>
      obtain ⟨plain, same⟩ := fixed c (by simp)
      rw [lowerAfter, ih fun d member => fixed d (List.mem_cons_of_mem c member)]
      simp [plain, same]

theorem ne_capitalSigma {c : Char} (small : c.toNat < 0x80) : c ≠ capitalSigma := by
  rintro rfl
  exact absurd small (by decide)

theorem lower_eq_self {text : Text}
    (fixed : ∀ c ∈ text, c.toNat < 0x80 ∧ c.toLower = c) : lower text = text :=
  lower_eq_self_of_lowerChar fun c member => by
    obtain ⟨small, same⟩ := fixed c member
    exact ⟨ne_capitalSigma small, by simp [lowerChar, small, same]⟩

theorem mem_lower_of_mem_lowerImage {c d : Char} {text : Text} (member : c ∈ text)
    (image : d ∈ lowerImage c) (free : SigmaFree [d]) : d ∈ lower text := by
  rw [← List.singleton_infix_iff, infix_lower_iff free, List.singleton_infix_iff,
    List.mem_flatMap]
  exact ⟨c, member, image⟩

theorem mem_lower_of_mem {c : Char} {text : Text} (small : c.toNat < 0x80)
    (same : c.toLower = c) (member : c ∈ text) : c ∈ lower text := by
  refine mem_lower_of_mem_lowerImage member ?_ (sigmaFree_singleton small)
  simp [lowerImage, ne_capitalSigma small, lowerChar, small, same]

theorem lowerChar_ne_nil (c : Char) : lowerChar c ≠ [] := by
  unfold lowerChar
  split
  · simp
  · split <;> simp

theorem lower_eq_nil_iff {text : Text} : lower text = [] ↔ text = [] := by
  constructor
  · intro empty
    cases text with
    | nil => rfl
    | cons c rest =>
        rw [lower, lowerAfter, List.append_eq_nil_iff] at empty
        have none := empty.1
        split at none
        · split at none <;> exact absurd none (by simp)
        · exact absurd none (lowerChar_ne_nil c)
  · rintro rfl
    rfl

end Text

end CssAudit
