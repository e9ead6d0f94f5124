import CssAudit.Gate.Sanitize
import CssAudit.Gate.Tables
import CssAudit.Proofs.Text.Lowering
import CssAudit.Proofs.Text.Trim

/-!
# Normal forms

A name in normal form keeps to small letters, digits and hyphens; a value in normal
form has no NUL character and is collapsed.  Both are fixed points of their
normalization, and the names of allowed properties are in normal form.
-/

namespace CssAudit

namespace Gate

theorem toNat_of_isNameChar {c : Char} (allowed : isNameChar c = true) :
    c.toNat = 45 ∨ (48 ≤ c.toNat ∧ c.toNat ≤ 57) ∨ (97 ≤ c.toNat ∧ c.toNat ≤ 122) := by
  simp only [isNameChar, Bool.or_eq_true, decide_eq_true_eq] at allowed
  rcases allowed with (letter | digit) | rfl
  · exact .inr (.inr (Text.isLower_iff.mp letter))
  · exact .inr (.inl (Text.isDigit_iff.mp digit))
  · exact .inl rfl

theorem toLower_of_isNameChar {c : Char} (allowed : isNameChar c = true) :
    c.toLower = c := by
  have codes := toNat_of_isNameChar allowed
  exact Text.toLower_eq_self (by omega)

theorem lower_eq_self_of_isNameChar {name : Text}
    (allowed : ∀ c ∈ name, isNameChar c = true) : Text.lower name = name :=
  Text.lower_eq_self fun c member => by
    have codes := toNat_of_isNameChar (allowed c member)
    exact ⟨by omega, toLower_of_isNameChar (allowed c member)⟩

theorem isBlank_of_isNameChar {c : Char} (allowed : isNameChar c = true) :
    Text.isBlank c = false := by
  have codes := toNat_of_isNameChar allowed
  exact Text.isBlank_eq_false (by omega) (by omega)

theorem trim_eq_self_of_isNameChar {name : Text}
    (allowed : ∀ c ∈ name, isNameChar c = true) : Text.trim name = name :=
  Text.trim_eq_self_of_solid fun c member => isBlank_of_isNameChar (allowed c member)

theorem isNameChar_of_mem_sanitizeName {name : Text} :
    ∀ c ∈ sanitizeName name, isNameChar c = true :=
  fun _ member => (List.mem_filter.mp member).2

theorem sanitizeName_eq_self {name : Text} (allowed : ∀ c ∈ name, isNameChar c = true) :
    sanitizeName name = name := by
  rw [sanitizeName, trim_eq_self_of_isNameChar allowed, lower_eq_self_of_isNameChar allowed,
    List.filter_eq_self]
  exact allowed

theorem sanitizeName_sanitizeName (name : Text) :
    sanitizeName (sanitizeName name) = sanitizeName name :=
  sanitizeName_eq_self isNameChar_of_mem_sanitizeName

theorem name_of_allowed {name : Text} (allowed : listed allowedProperties name = true) :
    name ≠ [] ∧ ∀ c ∈ name, isNameChar c = true := by
  have table : ∀ entry ∈ allowedProperties,
      entry.toList ≠ [] ∧ entry.toList.all isNameChar = true := by
    decide +kernel
  obtain ⟨entry, member, same⟩ := List.any_eq_true.mp allowed
  obtain rfl : entry.toList = name := eq_of_beq same
  exact (table entry member).imp id List.all_eq_true.mp

theorem filter_nul_eq_self {text : Text} (absent : nul ∉ text) :
    text.filter (· ≠ nul) = text := by
  rw [List.filter_eq_self]
  intro c member
  simpa using fun same : c = nul => absent (same ▸ member)

theorem sanitizeValue_eq_collapse {text : Text} (absent : nul ∉ text) :
    sanitizeValue text = Text.collapse text := by
  rw [sanitizeValue, filter_nul_eq_self absent]

theorem singleSpaced_sanitizeValue (text : Text) :
    Text.SingleSpaced (sanitizeValue text) :=
  Text.singleSpaced_collapse _

/-- A value in normal form holds the characters of the value that are neither blank
nor NUL. -/
theorem mem_sanitizeValue {c : Char} (solid : Text.isBlank c = false) {text : Text} :
    c ∈ sanitizeValue text ↔ c ∈ text ∧ c ≠ nul := by
  rw [sanitizeValue, Text.mem_collapse solid, List.mem_filter, decide_eq_true_eq]

theorem nul_not_mem_sanitizeValue (text : Text) : nul ∉ sanitizeValue text := by
  rw [mem_sanitizeValue (by decide)]
  exact fun found => found.2 rfl

theorem sanitizeValue_sanitizeValue (text : Text) :
    sanitizeValue (sanitizeValue text) = sanitizeValue text := by
  rw [sanitizeValue_eq_collapse (nul_not_mem_sanitizeValue text), sanitizeValue,
    Text.collapse_collapse]

end Gate

end CssAudit
