import CssAudit.Proofs.Text.Figure
import CssAudit.Text.Case

/-!
# Letters of the grammars

A character that folds to a letter is a letter of ASCII or one of four others.  It is
neither blank nor, in lower case, a figure.
-/

namespace CssAudit

namespace Text

/-- The characters beyond ASCII that fold to a letter. -/
def foreignLetters : List Char :=
  ['İ', 'ı', 'ſ', '\u212A']

theorem isFoldedLetter_cases {c : Char} (letter : isFoldedLetter c = true) :
    c ∈ foreignLetters ∨ (65 ≤ c.toNat ∧ c.toNat ≤ 122 ∧ c.toLower.isLower = true) := by
  unfold isFoldedLetter fold at letter
  split at letter
  · rename_i dotted
    rw [Bool.or_eq_true, decide_eq_true_eq, decide_eq_true_eq] at dotted
    rcases dotted with rfl | rfl <;> exact .inl (by decide)
  split at letter
  · rename_i long
    subst long
    exact .inl (by decide)
  split at letter
  · rename_i kelvin
    subst kelvin
    exact .inl (by decide)
  have lowered := letter
  unfold Char.toLower at letter
  split at letter
  · rename_i upper
    have low : 65 ≤ c.toNat := upper.1
    have high : c.toNat ≤ 90 := upper.2
    exact .inr ⟨low, by omega, lowered⟩
  · have codes := isLower_iff.mp letter
    exact .inr ⟨by omega, codes.2, lowered⟩

theorem isBlank_of_isFoldedLetter {c : Char} (letter : isFoldedLetter c = true) :
    isBlank c = false := by
  have foreign_solid : foreignLetters.all (fun d => !isBlank d) = true := by decide
  rcases isFoldedLetter_cases letter with foreign | ⟨low, high, _⟩
  · simpa using List.all_eq_true.mp foreign_solid c foreign
  · exact isBlank_eq_false (by omega) (by omega)

theorem isBlank_of_folds {run word : Text} (folds : run.map fold = word)
    (letters : word.all Char.isLower = true) : ∀ c ∈ run, isBlank c = false := by
  intro c member
  apply isBlank_of_isFoldedLetter
  exact List.all_eq_true.mp letters (fold c) (folds ▸ List.mem_map_of_mem member)

theorem exists_mem_lowerImage {c : Char} (letter : isFoldedLetter c = true) :
    ∃ d ∈ lowerImage c, isFigure d = false ∧ SigmaFree [d] := by
  rcases isFoldedLetter_cases letter with foreign | ⟨low, high, lower⟩
  · simp only [foreignLetters, List.mem_cons, List.not_mem_nil, or_false] at foreign
    rcases foreign with rfl | rfl | rfl | rfl
    · exact ⟨'i', by decide, by decide, by decide⟩
    · exact ⟨'ı', by decide +kernel, by decide, by decide⟩
    · exact ⟨'ſ', by decide +kernel, by decide, by decide⟩
    · exact ⟨'k', by decide +kernel, by decide, by decide⟩
  · have small : c.toNat < 0x80 := by omega
    have codes := isLower_iff.mp lower
    refine ⟨c.toLower, by simp [lowerImage, ne_capitalSigma small, lowerChar, small], ?_, ?_⟩
    · have undigit : ¬ c.toLower.isDigit = true := by
        rw [isDigit_iff]
        omega
      have ascii : c.toLower.toNat < 0x80 := by omega
      simp [isFigure, isDecimal, digitValue?, ascii, undigit]
    · exact sigmaFree_singleton (by omega)

theorem isFoldedLetter_of_toLower {c : Char} (letter : c.toLower.isLower = true) :
    isFoldedLetter c = true := by
  unfold isFoldedLetter fold
  split
  · rfl
  split
  · rfl
  split
  · rfl
  · exact letter

theorem toNat_ofNat_cases (code : Nat) :
    (Char.ofNat code).toNat = code ∨ (Char.ofNat code).toNat = 0 := by
  by_cases valid : code.isValidChar
  · exact .inl (by rw [Char.ofNat, dif_pos valid]; rfl)
  · exact .inr (by rw [Char.ofNat, dif_neg valid]; rfl)

/-- Beyond ASCII, only the Kelvin sign has a single letter of ASCII as its lower case. -/
theorem eq_kelvin_of_shiftCase {c : Char} (large : 0x80 ≤ c.toNat)
    (letter : (shiftCase lowerRuns c).isLower = true) : c = '\u212A' := by
  have apart : lowerRuns.all (fun run =>
      (run.first == 0x212A && run.last == 0x212A) || 122 < run.first + run.offset) = true := by
    decide
  have codes := isLower_iff.mp letter
  unfold shiftCase at codes
  split at codes
  · rename_i run found
    have covers := List.find?_some found
    simp only [CaseRun.covers, Bool.and_eq_true, decide_eq_true_eq] at covers
    have known := List.all_eq_true.mp apart run (List.mem_of_find?_eq_some found)
    simp only [Bool.or_eq_true, Bool.and_eq_true, beq_iff_eq, decide_eq_true_eq] at known
    rcases known with ⟨first, last⟩ | far
    · have code : c.toNat = 0x212A := by omega
      rw [← Char.ofNat_toNat c, code]
    · have image := toNat_ofNat_cases (c.toNat + run.offset).toNat
      omega
  · omega

/-- Only letters of the grammars have letters of ASCII in their lower-case form. -/
theorem isFoldedLetter_of_mem_lowerChar {c d : Char} (image : d ∈ lowerChar c)
    (letter : d.isLower = true) : isFoldedLetter c = true := by
  unfold lowerChar at image
  split at image
  · rw [List.mem_singleton.mp image] at letter
    exact isFoldedLetter_of_toLower letter
  · rename_i large
    split at image
    · rename_i dotted
      subst dotted
      rfl
    · rw [List.mem_singleton.mp image] at letter
      rw [eq_kelvin_of_shiftCase (Nat.not_lt.mp large) letter]
      rfl

/-- A text whose lower-case form has letters of ASCII only is written with letters of the
grammars. -/
theorem isFoldedLetter_of_lower {text : Text} (letters : ∀ d ∈ lower text, d.isLower = true) :
    ∀ c ∈ text, isFoldedLetter c = true := by
  suffices after : ∀ afterCased, (∀ d ∈ lowerAfter afterCased text, d.isLower = true) →
      ∀ c ∈ text, isFoldedLetter c = true from after false letters
  clear letters
  intro afterCased letters
  induction text generalizing afterCased with
  | nil => simp
  | cons c rest ih =>
      rw [lowerAfter, List.forall_mem_append] at letters
      refine List.forall_mem_cons.mpr ⟨?_, ih _ letters.2⟩
      have first := letters.1
      split at first
      · -- Neither form of the sigma is a letter of ASCII.
        split at first <;> exact absurd (first _ (List.mem_singleton_self _)) (by decide)
      · obtain ⟨d, image⟩ := List.exists_mem_of_ne_nil _ (lowerChar_ne_nil c)
        exact isFoldedLetter_of_mem_lowerChar image (first d image)

end Text

end CssAudit
