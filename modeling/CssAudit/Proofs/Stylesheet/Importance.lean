import CssAudit.Proofs.OrderedMap
import CssAudit.Proofs.Text.Folded
import CssAudit.Proofs.Text.Padding
import CssAudit.Proofs.Value.Url
import CssAudit.Stylesheet.Rule

/-!
# Importance flags

A value is split exactly before the flag that ends it: an exclamation mark and a word
that folds to `important`, possibly with blanks between the two.
-/

namespace CssAudit

namespace Stylesheet

/-- A flag that marks a declaration as important. -/
def IsImportantFlag (flag : Text) : Prop :=
  ∃ gap word : Text, flag = '!' :: (gap ++ word) ∧ Text.IsGap gap ∧
    word.map Text.fold = "important".toList

/-- Whether a value ends in an importance flag, but for blanks. -/
def EndsImportant (value : Text) : Prop :=
  ∃ before flag after, IsImportantFlag flag ∧ Text.IsGap after ∧
    value = before ++ (flag ++ after)

section Flag

variable {flag : Text} (important : IsImportantFlag flag)
include important

theorem IsImportantFlag.starts : ∃ rest, flag = '!' :: rest := by
  obtain ⟨gap, word, rfl, -, -⟩ := important
  exact ⟨gap ++ word, rfl⟩

theorem IsImportantFlag.ends : ∀ c, flag.getLast? = some c → Text.isBlank c = false := by
  obtain ⟨gap, word, rfl, -, folds⟩ := important
  intro c last
  have nonempty : word ≠ [] := by
    rintro rfl
    exact absurd folds (by decide)
  rw [← List.cons_append, List.getLast?_append_of_ne_nil _ nonempty] at last
  exact Text.isBlank_of_folds folds (by decide) c (List.mem_of_mem_getLast? last)

theorem IsImportantFlag.not_mem {c : Char} (solid : Text.isBlank c = false) (unmarked : c ≠ '!')
    (foreign : Text.fold c ∉ "important".toList) : c ∉ flag := by
  obtain ⟨gap, word, rfl, gap_blank, folds⟩ := important
  intro member
  rcases List.mem_cons.mp member with mark | member
  · exact unmarked mark
  rcases List.mem_append.mp member with inGap | inWord
  · exact gap_blank.not_mem solid inGap
  · rw [← folds] at foreign
    exact foreign (List.mem_map_of_mem inWord)

end Flag

theorem dropWhile_gap_append {gap text : Text} (blank : Text.IsGap gap)
    (starts : ∀ c, text.head? = some c → Text.isBlank c = false) :
    (gap ++ text).dropWhile Text.isBlank = text := by
  rw [List.dropWhile_append_of_pos blank]
  exact Text.trimStart_eq_self starts

/-- A flag that ends a value is found, and so is what stands before it. -/
theorem beforeImportant?_append {flag after : Text} (important : IsImportantFlag flag)
    (after_blank : Text.IsGap after) (before : Text) :
    beforeImportant? (before ++ (flag ++ after)) = some before := by
  have ends := important.ends
  obtain ⟨gap, word, rfl, gap_blank, folds⟩ := important
  -- The value is searched from its end, so its parts stand reversed.
  have reversed : (before ++ ('!' :: (gap ++ word) ++ after)).reverse =
      after.reverse ++ (word.reverse ++ (gap.reverse ++ '!' :: before.reverse)) := by
    simp
  have letters : ∀ c, (word.reverse ++ (gap.reverse ++ '!' :: before.reverse)).head? = some c →
      Text.isBlank c = false := by
    intro c first
    apply ends c
    rw [← List.head?_reverse]
    cases word with
    | nil => exact absurd folds (by decide)
    | cons d word => simpa [← List.append_assoc, List.head?_append] using first
  have marked : ∀ c, ('!' :: before.reverse).head? = some c → Text.isBlank c = false := by
    rintro c ⟨⟩
    decide
  have dropped : Text.dropFolded? "tnatropmi".toList
      (word.reverse ++ (gap.reverse ++ '!' :: before.reverse)) =
        some (gap.reverse ++ '!' :: before.reverse) := by
    refine Text.dropFolded?_eq_some_iff.mpr ⟨word.reverse, rfl, ?_⟩
    rw [List.map_reverse, folds]
    decide
  have unmarked : Text.dropPrefix? ['!'] ('!' :: before.reverse) = some before.reverse :=
    Text.dropPrefix?_eq_some_iff.mpr rfl
  simp only [beforeImportant?, reversed, dropWhile_gap_append after_blank.reverse letters,
    dropped, Option.bind_eq_bind, Option.bind_some,
    dropWhile_gap_append gap_blank.reverse marked, unmarked, List.reverse_reverse]

/-- Only what stands before a flag that ends the value is found. -/
theorem of_beforeImportant? {value before : Text} (found : beforeImportant? value = some before) :
    ∃ flag after, IsImportantFlag flag ∧ Text.IsGap after ∧ value = before ++ (flag ++ after) := by
  obtain ⟨rest, dropped, found⟩ := Option.bind_eq_some_iff.mp found
  obtain ⟨reversed, marked, found⟩ := Option.bind_eq_some_iff.mp found
  obtain rfl := Option.some.inj found
  obtain ⟨after, after_blank, value_eq⟩ := Text.exists_gap_append_trimStart value.reverse
  obtain ⟨gap, gap_blank, rest_eq⟩ := Text.exists_gap_append_trimStart rest
  obtain ⟨word, word_eq, folds⟩ := Text.dropFolded?_eq_some_iff.mp dropped
  rw [Text.dropPrefix?_eq_some_iff] at marked
  rw [Text.trimStart, word_eq, rest_eq, Text.trimStart, marked] at value_eq
  refine ⟨'!' :: (gap.reverse ++ word.reverse), after.reverse,
    ⟨_, _, rfl, gap_blank.reverse, ?_⟩, after_blank.reverse, ?_⟩
  · rw [List.map_reverse, folds]
    decide
  · rw [← List.reverse_reverse value, value_eq]
    simp

theorem endsImportant_iff {value : Text} :
    EndsImportant value ↔ (beforeImportant? value).isSome = true := by
  rw [Option.isSome_iff_exists]
  constructor
  · rintro ⟨before, flag, after, important, after_blank, rfl⟩
    exact ⟨before, beforeImportant?_append important after_blank before⟩
  · rintro ⟨before, found⟩
    obtain ⟨flag, after, important, after_blank, shape⟩ := of_beforeImportant? found
    exact ⟨before, flag, after, important, after_blank, shape⟩

instance (value : Text) : Decidable (EndsImportant value) :=
  decidable_of_iff _ endsImportant_iff.symm

theorem splitImportant_of_not_endsImportant {value : Text} (plain : ¬ EndsImportant value) :
    splitImportant value = (Text.trim value, false) := by
  have absent : beforeImportant? value = none := by
    simpa [endsImportant_iff] using plain
  rw [splitImportant, absent]

theorem splitImportant_of_not_mem {value : Text} (unmarked : '!' ∉ value) :
    splitImportant value = (Text.trim value, false) := by
  refine splitImportant_of_not_endsImportant ?_
  rintro ⟨before, flag, after, important, -, rfl⟩
  obtain ⟨rest, rfl⟩ := important.starts
  simp at unmarked

theorem splitImportant_append {flag : Text} (important : IsImportantFlag flag)
    (value : Text) : splitImportant (value ++ flag) = (Text.trim value, true) := by
  have found := beforeImportant?_append important Text.isGap_nil value
  rw [List.append_nil] at found
  rw [splitImportant, found]

theorem splitImportant_snd_iff {value : Text} :
    (splitImportant value).2 = true ↔ EndsImportant value := by
  rw [endsImportant_iff, splitImportant]
  cases beforeImportant? value <;> simp

theorem trim_splitImportant (value : Text) :
    Text.trim (splitImportant value).1 = (splitImportant value).1 := by
  rw [splitImportant]
  cases beforeImportant? value with
  | none => exact Text.trim_trim value
  | some before => exact Text.trim_trim before

/-- Of a value as it is written nothing is left exactly if it is a flag and nothing
else. -/
theorem splitImportant_eq_nil_iff {value : Text} (nonempty : value ≠ [])
    (trimmed : Text.trim value = value) :
    (splitImportant value).1 = [] ↔ IsImportantFlag value := by
  constructor
  · intro empty
    by_cases flagged : EndsImportant value
    · obtain ⟨before, flag, after, important, after_blank, shape⟩ := flagged
      have found := beforeImportant?_append important after_blank before
      rw [← shape] at found
      rw [splitImportant, found] at empty
      have pads : Text.Pads flag value :=
        ⟨before, after, Text.isGap_of_trim_eq_nil empty, after_blank, shape⟩
      rwa [← trimmed, pads.trim_eq, Text.trim_eq_self _ important.ends]
      obtain ⟨rest, rfl⟩ := important.starts
      rintro c ⟨⟩
      decide
    · rw [splitImportant_of_not_endsImportant flagged, trimmed] at empty
      exact absurd empty nonempty
  · intro important
    have split := splitImportant_append important []
    rw [List.nil_append] at split
    rw [split]
    rfl

end Stylesheet

/-- A rule declares what is left of the declarations that count for their names. -/
theorem StyleRule.declarations_eq (selector : Text) (written : List (Text × Text)) :
    (StyleRule.ofDeclarations selector written).declarations =
      (OrderedMap.ofList written).map fun entry =>
        (entry.1, (Stylesheet.splitImportant entry.2).1) := by
  rw [OrderedMap.map_ofList (fun value => (Stylesheet.splitImportant value).1)]
  simp [StyleRule.ofDeclarations, Function.comp_def]

/-- Declarations of distinct names keep their places in a rule. -/
theorem StyleRule.declarations_ofDeclarations {raw : OrderedMap Text Text}
    (distinct : OrderedMap.Distinct raw) (selector : Text) :
    (StyleRule.ofDeclarations selector raw).declarations =
      raw.map fun entry => (entry.1, (Stylesheet.splitImportant entry.2).1) := by
  rw [StyleRule.declarations_eq, OrderedMap.ofList_eq_self distinct]

end CssAudit
