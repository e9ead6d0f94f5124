import CssAudit.Proofs.Text.Trim
import Mathlib.Data.List.Basic

/-!
# Texts with blanks around them

Trimming does not see the blanks around a text, and a trimmed text with blanks around
it is the text that was trimmed.
-/

namespace CssAudit

namespace Text

/-- A text of blanks only. -/
def IsGap (gap : Text) : Prop :=
  ∀ c ∈ gap, isBlank c = true

instance (gap : Text) : Decidable (IsGap gap) :=
  decidable_of_iff (gap.all isBlank = true) List.all_eq_true

theorem isGap_nil : IsGap [] := by
  simp [IsGap]

theorem isGap_space : IsGap [' '] := by
  decide

theorem IsGap.not_mem {gap : Text} (blank : IsGap gap) {c : Char}
    (solid : isBlank c = false) : c ∉ gap := by
  intro member
  rw [blank c member] at solid
  exact absurd solid (by decide)

theorem IsGap.append {first second : Text} (first_blank : IsGap first)
    (second_blank : IsGap second) : IsGap (first ++ second) := by
  intro c member
  rcases List.mem_append.mp member with left | right
  · exact first_blank c left
  · exact second_blank c right

theorem IsGap.reverse {gap : Text} (blank : IsGap gap) : IsGap gap.reverse :=
  fun c member => blank c (List.mem_reverse.mp member)

theorem exists_gap_append_trimStart (text : Text) :
    ∃ gap, IsGap gap ∧ text = gap ++ trimStart text :=
  ⟨text.takeWhile isBlank, fun _ member => List.mem_takeWhile_imp member,
    List.takeWhile_append_dropWhile.symm⟩

theorem exists_trimEnd_append_gap (text : Text) :
    ∃ gap, IsGap gap ∧ text = trimEnd text ++ gap := by
  obtain ⟨gap, blank, shape⟩ := exists_gap_append_trimStart text.reverse
  refine ⟨gap.reverse, blank.reverse, ?_⟩
  rw [trimEnd, ← List.reverse_append, ← shape, List.reverse_reverse]

theorem IsGap.trimStart_append {gap : Text} (blank : IsGap gap) (text : Text) :
    trimStart (gap ++ text) = trimStart text :=
  List.dropWhile_append_of_pos blank

theorem IsGap.trimStart_eq_nil {gap : Text} (blank : IsGap gap) : trimStart gap = [] := by
  rw [← List.append_nil gap, blank.trimStart_append]
  rfl

theorem IsGap.trimEnd_append {gap : Text} (blank : IsGap gap) (text : Text) :
    trimEnd (text ++ gap) = trimEnd text := by
  rw [trimEnd, List.reverse_append, blank.reverse.trimStart_append, trimEnd]

theorem IsGap.trim_before {gap : Text} (blank : IsGap gap) (text : Text) :
    trim (gap ++ text) = trim text := by
  rw [trim, blank.trimStart_append, trim]

theorem IsGap.trim_after {gap : Text} (blank : IsGap gap) (text : Text) :
    trim (text ++ gap) = trim text := by
  by_cases started : trimStart text = []
  · have only : trimStart (text ++ gap) = [] := by
      rw [trimStart, List.dropWhile_append, ← trimStart, started]
      exact blank.trimStart_eq_nil
    rw [trim, only, trim, started]
  · have kept : trimStart (text ++ gap) = trimStart text ++ gap := by
      rw [trimStart, List.dropWhile_append, ← trimStart, if_neg (by simpa using started)]
    rw [trim, kept, blank.trimEnd_append, trim]

/-- One text is the other with blanks around it. -/
def Pads (inner outer : Text) : Prop :=
  ∃ before after, IsGap before ∧ IsGap after ∧ outer = before ++ (inner ++ after)

theorem pads_trim (text : Text) : Pads (trim text) text := by
  obtain ⟨before, before_blank, start_eq⟩ := exists_gap_append_trimStart text
  obtain ⟨after, after_blank, end_eq⟩ :=
    exists_gap_append_trimStart (trimStart text).reverse
  refine ⟨before, after.reverse, before_blank, after_blank.reverse, ?_⟩
  have ends : trimStart text = trim text ++ after.reverse := by
    rw [trim, trimEnd, ← List.reverse_append, ← end_eq, List.reverse_reverse]
  rw [← ends, ← start_eq]

theorem pads_self (text : Text) : Pads text text :=
  ⟨[], [], isGap_nil, isGap_nil, by simp⟩

theorem Pads.gap_append {inner outer gap : Text} (pads : Pads inner outer)
    (blank : IsGap gap) : Pads inner (gap ++ outer) := by
  obtain ⟨before, after, before_blank, after_blank, rfl⟩ := pads
  exact ⟨gap ++ before, after, blank.append before_blank, after_blank, by simp⟩

/-- What a text is trimmed to does not depend on the blanks around it. -/
theorem Pads.trim_eq {inner outer : Text} (pads : Pads inner outer) :
    trim outer = trim inner := by
  obtain ⟨before, after, before_blank, after_blank, rfl⟩ := pads
  rw [before_blank.trim_before, after_blank.trim_after]

theorem Pads.mem_iff {inner outer : Text} (pads : Pads inner outer) {c : Char}
    (solid : isBlank c = false) : c ∈ outer ↔ c ∈ inner := by
  rw [← mem_trim solid, pads.trim_eq, mem_trim solid]

theorem Pads.isInfix {inner outer : Text} (pads : Pads inner outer) : inner <:+: outer := by
  obtain ⟨before, after, -, -, rfl⟩ := pads
  exact (List.prefix_append inner after).isInfix.trans (List.suffix_append before _).isInfix

theorem isGap_of_trim_eq_nil {text : Text} (empty : trim text = []) : IsGap text := by
  obtain ⟨before, after, before_blank, after_blank, shape⟩ := pads_trim text
  rw [shape, empty]
  exact before_blank.append after_blank

/-- The blanks at the outer ends of two texts are around what is between them. -/
theorem pads_between (before middle after : Text) :
    Pads (trimStart before ++ (middle ++ trimEnd after)) (before ++ (middle ++ after)) := by
  obtain ⟨front, front_blank, before_eq⟩ := exists_gap_append_trimStart before
  obtain ⟨back, back_blank, after_eq⟩ := exists_trimEnd_append_gap after
  refine ⟨front, back, front_blank, back_blank, ?_⟩
  calc before ++ (middle ++ after)
      = (front ++ trimStart before) ++ (middle ++ (trimEnd after ++ back)) := by
        rw [← before_eq, ← after_eq]
    _ = front ++ (trimStart before ++ (middle ++ trimEnd after) ++ back) := by simp

theorem trim_append_append {middle : Text} (nonempty : middle ≠ [])
    (starts : ∀ c, middle.head? = some c → isBlank c = false)
    (ends : ∀ c, middle.getLast? = some c → isBlank c = false) (before after : Text) :
    trim (before ++ (middle ++ after)) = trimStart before ++ (middle ++ trimEnd after) := by
  rw [(pads_between before middle after).trim_eq]
  refine trim_eq_self (fun c first => ?_) fun c last => ?_
  · cases started : trimStart before with
    | nil =>
        rw [started, List.nil_append, List.head?_append_of_ne_nil _ nonempty] at first
        exact starts c first
    | cons d rest =>
        rw [List.head?_append_of_ne_nil _ (by simp [started])] at first
        exact isBlank_of_head?_trimStart first
  · rw [← List.append_assoc] at last
    by_cases ended : trimEnd after = []
    · rw [ended, List.append_nil, List.getLast?_append_of_ne_nil _ nonempty] at last
      exact ends c last
    · rw [List.getLast?_append_of_ne_nil _ ended, trimEnd, List.getLast?_reverse] at last
      exact isBlank_of_head?_trimStart last

end Text

end CssAudit
