import CssAudit.Proofs.Text.Lowering
import CssAudit.Text.Blank
import CssAudit.Text.Digit

/-!
# Figures and decimal digits

The tables of digits, blanks and capital letters are apart: a digit or a character that
looks like one is neither blank nor changed by lowering.
-/

namespace CssAudit

namespace Text

theorem Ranges.contains_iff {ranges : Ranges} {c : Char} :
    ranges.contains c = true ↔
      ∃ range ∈ ranges, range.1 ≤ c.toNat ∧ c.toNat ≤ range.2 := by
  simp [Ranges.contains]

/-- Whether no code point lies in a range of both lists. -/
def Ranges.Apart (ranges others : Ranges) : Prop :=
  ∀ range ∈ ranges, ∀ other ∈ others, range.2 < other.1 ∨ other.2 < range.1

instance (ranges others : Ranges) : Decidable (ranges.Apart others) :=
  inferInstanceAs (Decidable (∀ range ∈ ranges, ∀ other ∈ others, _ ∨ _))

theorem Ranges.Apart.contains_eq_false {ranges others : Ranges} (apart : ranges.Apart others)
    {c : Char} (within : ranges.contains c = true) : others.contains c = false := by
  rw [← Bool.not_eq_true, Ranges.contains_iff]
  rintro ⟨other, other_mem, other_bounds⟩
  obtain ⟨range, range_mem, range_bounds⟩ := Ranges.contains_iff.mp within
  have separate := apart range range_mem other other_mem
  omega

/-- The ranges of the decimal digits of all scripts. -/
def decimalRanges : Ranges :=
  (0x30, 0x39) :: digitZeros.map fun start => (start, start + 9)

theorem contains_decimalRanges_iff {c : Char} :
    decimalRanges.contains c = true ↔ (0x30 ≤ c.toNat ∧ c.toNat ≤ 0x39) ∨
      ∃ start ∈ digitZeros, start ≤ c.toNat ∧ c.toNat ≤ start + 9 := by
  simp [Ranges.contains_iff, decimalRanges]

theorem isDecimal_iff {c : Char} : isDecimal c = true ↔ decimalRanges.contains c = true := by
  have beyond : ∀ start ∈ digitZeros, 0x80 ≤ start := by decide
  rw [contains_decimalRanges_iff]
  by_cases small : c.toNat < 0x80
  · have ascii : isDecimal c = c.isDigit := by
      cases digit : c.isDigit <;> simp [isDecimal, digitValue?, small, digit]
    rw [ascii, isDigit_iff, or_iff_left]
    rintro ⟨start, member, low, _⟩
    have far := beyond start member
    omega
  · have script : isDecimal c =
        (digitZeros.find? fun start => start ≤ c.toNat && c.toNat ≤ start + 9).isSome := by
      simp [isDecimal, digitValue?, small]
    rw [script, List.find?_isSome, or_iff_right (by omega)]
    simp

theorem isBlank_of_isFigure {c : Char} (figure : isFigure c = true) : isBlank c = false := by
  -- The tables are compared once, range by range; no character is looked at.
  have decimals : decimalRanges.Apart blankRanges := by decide +kernel
  have others : figureRanges.Apart blankRanges := by decide
  simp only [isFigure, Bool.or_eq_true, Bool.and_eq_true] at figure
  rcases figure with decimal | ⟨_, other⟩
  · exact decimals.contains_eq_false (isDecimal_iff.mp decimal)
  · exact others.contains_eq_false other

theorem isFigure_of_isDecimal {c : Char} (decimal : isDecimal c = true) :
    isFigure c = true := by
  simp [isFigure, decimal]

/-- Characters of ranges that no run of capital letters meets do not change case. -/
theorem shiftCase_of_apart {ranges : Ranges} {c : Char}
    (apart : ranges.Apart (lowerRuns.map fun run => (run.first, run.last)))
    (within : ranges.contains c = true) : shiftCase lowerRuns c = c := by
  have uncovered : lowerRuns.find? (·.covers c.toNat) = none := by
    rw [List.find?_eq_none]
    intro run member covers
    have outside := apart.contains_eq_false within
    rw [← Bool.not_eq_true, Ranges.contains_iff] at outside
    refine outside ⟨(run.first, run.last), List.mem_map_of_mem member, ?_⟩
    simp only [CaseRun.covers, Bool.and_eq_true, decide_eq_true_eq] at covers
    exact covers.1
  rw [shiftCase, uncovered]

section Blank

variable {c : Char} (blank : isBlank c = true)
include blank

theorem toLower_of_isBlank : c.toLower = c := by
  refine toLower_eq_self fun capital => ?_
  rw [isBlank_eq_false (by omega) (by omega)] at blank
  cases blank

theorem lowerChar_of_isBlank : lowerChar c = [c] := by
  have apart : blankRanges.Apart (lowerRuns.map fun run => (run.first, run.last)) := by
    decide +kernel
  have dotless : c ≠ 'İ' := by
    rintro rfl
    exact absurd blank (by decide)
  by_cases small : c.toNat < 0x80
  · simp [lowerChar, small, toLower_of_isBlank blank]
  · simp [lowerChar, small, dotless, shiftCase_of_apart apart blank]

end Blank

section Decimal

variable {c : Char} (decimal : isDecimal c = true)
include decimal

theorem ne_of_isDecimal {d : Char} (foreign : isDecimal d = false) : c ≠ d := by
  rintro rfl
  rw [decimal] at foreign
  exact absurd foreign (by decide)

theorem toLower_of_isDecimal (small : c.toNat < 0x80) : c.toLower = c := by
  have digit : c.isDigit = true := by
    cases digit : c.isDigit with
    | true => rfl
    | false => simp [isDecimal, digitValue?, small, digit] at decimal
  have codes := isDigit_iff.mp digit
  exact toLower_eq_self (by omega)

theorem shiftCase_of_isDecimal : shiftCase lowerRuns c = c :=
  shiftCase_of_apart (by decide +kernel) (isDecimal_iff.mp decimal)

theorem lowerChar_of_isDecimal : lowerChar c = [c] := by
  by_cases small : c.toNat < 0x80
  · simp [lowerChar, small, toLower_of_isDecimal decimal small]
  · have dotless : c ≠ 'İ' := ne_of_isDecimal decimal (by decide)
    simp [lowerChar, small, dotless, shiftCase_of_isDecimal decimal]

theorem mem_lower_of_isDecimal {text : Text} (member : c ∈ text) : c ∈ lower text := by
  have no_sigma : c ≠ capitalSigma := ne_of_isDecimal decimal (by decide)
  refine mem_lower_of_mem_lowerImage member ?_ ?_
  · simp [lowerImage, no_sigma, lowerChar_of_isDecimal decimal]
  · have others {d : Char} (foreign : isDecimal d = false) : d ∉ [c] := by
      simpa using (ne_of_isDecimal decimal foreign).symm
    exact ⟨others (by decide), others (by decide)⟩

end Decimal

theorem lower_of_decimals {text : Text} (decimals : ∀ c ∈ text, isDecimal c = true) :
    lower text = text := by
  refine lower_eq_self_of_lowerChar fun c member => ?_
  have decimal := decimals c member
  exact ⟨ne_of_isDecimal decimal (by decide), lowerChar_of_isDecimal decimal⟩

end Text

end CssAudit
