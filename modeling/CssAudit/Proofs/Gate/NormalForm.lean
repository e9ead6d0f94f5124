import CssAudit.Proofs.Gate.Sanitize
import CssAudit.Proofs.Text.Words

/-!
# The normal form of a value

Sanitizing a value takes its NUL characters out, puts one space for every run of blanks
and trims what comes out.  The order matters, since a NUL character can stand between two
runs of blanks or outside of one.  The result is the only text without NUL characters
whose blanks are single spaces between other characters, and which holds the characters
of the value that are neither blank nor NUL, in their order and apart where they were
apart.  Sanitized values and names are therefore fixed points.
-/

namespace CssAudit

namespace Gate

/-- Whether a character of a value is one of its normal form as well. -/
def isKept (c : Char) : Bool :=
  !Text.isBlank c && c ≠ nul

/-- A single-spaced text without NUL characters that holds what a value keeps, in order,
with a space between two characters exactly if a blank stands between them in the value. -/
structure IsNormalForm (value normal : Text) : Prop extends Text.SingleSpaced normal where
  nul_free : nul ∉ normal
  kept : normal.filter isKept = value.filter isKept
  separates_iff : ∀ i j, j < value.countP isKept →
    (Text.Separates isKept normal i j ↔ Text.Separates isKept value i j)

theorem filter_isKept (text : Text) :
    text.filter isKept = (text.filter (· ≠ nul)).filter fun c => !Text.isBlank c := by
  rw [List.filter_filter]
  rfl

theorem countP_isKept (text : Text) :
    text.countP isKept = (text.filter (· ≠ nul)).countP fun c => !Text.isBlank c := by
  rw [List.countP_filter]
  rfl

theorem separates_isKept_iff {text : Text} {i j : Nat} :
    Text.Separates isKept text i j ↔
      Text.Separates (fun c => !Text.isBlank c) (text.filter (· ≠ nul)) i j := by
  -- No blank is a NUL character, so none is lost with them.
  refine (Text.separates_filter_iff fun c blank => ?_).symm
  rw [decide_eq_true_eq]
  rintro rfl
  exact absurd blank (by decide)

/-- Two values keep the same characters and the same of them apart exactly if they have
the same words without their NUL characters. -/
theorem words_filter_nul_eq_iff {first second : Text} :
    Text.words (first.filter (· ≠ nul)) = Text.words (second.filter (· ≠ nul)) ↔
      first.filter isKept = second.filter isKept ∧
        ∀ i j, j < second.countP isKept →
          (Text.Separates isKept first i j ↔ Text.Separates isKept second i j) := by
  simp only [Text.words_eq_iff, filter_isKept, countP_isKept, separates_isKept_iff]

theorem words_sanitizeValue (value : Text) :
    Text.words (sanitizeValue value) = Text.words (value.filter (· ≠ nul)) :=
  Text.words_collapse _

/-- A value has one normal form, and sanitizing finds it. -/
theorem isNormalForm_iff {value normal : Text} :
    IsNormalForm value normal ↔ normal = sanitizeValue value := by
  constructor
  · intro form
    have same := words_filter_nul_eq_iff.mpr ⟨form.kept, form.separates_iff⟩
    rw [filter_nul_eq_self form.nul_free] at same
    exact form.toSingleSpaced.eq_collapse same
  · rintro rfl
    have nul_free := nul_not_mem_sanitizeValue value
    have same := words_sanitizeValue value
    rw [← filter_nul_eq_self nul_free, words_filter_nul_eq_iff] at same
    exact ⟨singleSpaced_sanitizeValue value, nul_free, same.1, same.2⟩

/-- Sanitizing step by step: the NUL characters leave, then one space is put for every run
of blanks, and then the blanks at the ends leave. -/
theorem trim_squeeze_filter (value : Text) :
    Text.trim (Text.squeeze (value.filter (· ≠ nul))) = sanitizeValue value :=
  Text.trim_squeeze _

/-- A text of small letters, digits and hyphens of ASCII. -/
def IsNormalName (name : Text) : Prop :=
  ∀ c ∈ name, 'a' ≤ c ∧ c ≤ 'z' ∨ '0' ≤ c ∧ c ≤ '9' ∨ c = '-'

theorem isNormalName_iff {name : Text} :
    IsNormalName name ↔ ∀ c ∈ name, isNameChar c = true := by
  refine forall₂_congr fun c _ => ?_
  rw [isNameChar, Bool.or_eq_true, Bool.or_eq_true, Text.isLower_iff, Text.isDigit_iff,
    decide_eq_true_eq, or_assoc]
  rfl

theorem isNormalName_sanitizeName (name : Text) : IsNormalName (sanitizeName name) :=
  isNormalName_iff.mpr isNameChar_of_mem_sanitizeName

/-- Sanitizing leads to normal forms.  A sanitized value is the normal form of the value,
and the only one; a sanitized name is a text of small letters, digits and hyphens, and it
is the name itself exactly if that is such a text.  Sanitizing again changes nothing. -/
theorem isNormalForm_sanitize (value name : Text) :
    IsNormalForm value (sanitizeValue value) ∧
      (∀ normal, IsNormalForm value normal → normal = sanitizeValue value) ∧
      sanitizeValue (sanitizeValue value) = sanitizeValue value ∧
      IsNormalName (sanitizeName name) ∧
      (sanitizeName name = name ↔ IsNormalName name) ∧
      sanitizeName (sanitizeName name) = sanitizeName name := by
  refine ⟨isNormalForm_iff.mpr rfl, fun normal form => isNormalForm_iff.mp form,
    sanitizeValue_sanitizeValue value, isNormalName_sanitizeName name, ?_,
    sanitizeName_sanitizeName name⟩
  constructor
  · intro same
    rw [← same]
    exact isNormalName_sanitizeName name
  · exact fun normal => sanitizeName_eq_self (isNormalName_iff.mp normal)

/-- A NUL character that stands between blanks, in a word or at an end leaves no trace. -/
example : sanitizeValue "\x00 10px\t\x00\n au\x00to \x00".toList = "10px auto".toList := by
  decide

end Gate

end CssAudit
