import CssAudit.Proofs.Value.Grammar

/-!
# Matching parentheses

Read from the left, a closing parenthesis matches the last opening one that is still open,
or none.  What is unmatched at the end tells how far the counts of the two are apart, and
a text is nested exactly if nothing is unmatched.  The flag of a function compares counts
only, so it also passes the texts that leave as many parentheses open as they close
without having opened them.
-/

namespace CssAudit

namespace Value

/-- How many closing parentheses of a text match none, and how many opening ones. -/
structure Unmatched where
  closing : Nat := 0
  opening : Nat := 0

/-- What is unmatched after one more character. -/
def Unmatched.advance (sofar : Unmatched) (c : Char) : Unmatched :=
  if c = '(' then { sofar with opening := sofar.opening + 1 }
  else if c = ')' then
    if sofar.opening = 0 then { sofar with closing := sofar.closing + 1 }
    else { sofar with opening := sofar.opening - 1 }
  else sofar

/-- What is unmatched at the end of a text. -/
def unmatched (text : Text) : Unmatched :=
  text.foldl Unmatched.advance {}

/-- No run from the start of a text closes more than it opens, and the text closes as much
as it opens. -/
structure IsNested (text : Text) : Prop where
  opened_before : ∀ start, start <+: text → start.count ')' ≤ start.count '('
  closed_after : text.count '(' = text.count ')'

theorem unmatched_concat (text : Text) (c : Char) :
    unmatched (text ++ [c]) = (unmatched text).advance c := by
  rw [unmatched, List.foldl_append]
  rfl

theorem Unmatched.closing_le_advance (sofar : Unmatched) (c : Char) :
    sofar.closing ≤ (sofar.advance c).closing := by
  unfold advance
  split
  · exact Nat.le_refl _
  · split
    · split
      · exact Nat.le_succ _
      · exact Nat.le_refl _
    · exact Nat.le_refl _

/-- One more character keeps the balance of what is unmatched and what was counted. -/
theorem Unmatched.advance_balance (sofar : Unmatched) (c : Char) :
    [c].count '(' + sofar.opening + (sofar.advance c).closing =
      [c].count ')' + (sofar.advance c).opening + sofar.closing := by
  unfold advance
  by_cases opens : c = '('
  · subst opens
    simp
    omega
  · by_cases closes : c = ')'
    · subst closes
      by_cases none_open : sofar.opening = 0
      · simp [none_open]
        omega
      · simp [none_open]
        omega
    · simp [opens, closes]

/-- The counts of the parentheses differ by what is unmatched. -/
theorem count_add_closing (text : Text) :
    text.count '(' + (unmatched text).closing = text.count ')' + (unmatched text).opening := by
  induction text using List.reverseRecOn with
  | nil => rfl
  | append_singleton text c ih =>
      have step := (unmatched text).advance_balance c
      rw [unmatched_concat, List.count_append, List.count_append]
      omega

theorem closing_le_of_prefix {start text : Text} (starts : start <+: text) :
    (unmatched start).closing ≤ (unmatched text).closing := by
  obtain ⟨rest, rfl⟩ := starts
  induction rest using List.reverseRecOn with
  | nil => simp
  | append_singleton rest c ih =>
      rw [← List.append_assoc, unmatched_concat]
      exact ih.trans (Unmatched.closing_le_advance _ c)

/-- No closing parenthesis is unmatched exactly if no run from the start closes more than
it opens. -/
theorem closing_eq_zero_iff {text : Text} :
    (unmatched text).closing = 0 ↔
      ∀ start, start <+: text → start.count ')' ≤ start.count '(' := by
  constructor
  · intro none start starts
    have before := closing_le_of_prefix starts
    have counts := count_add_closing start
    omega
  · intro opened
    induction text using List.reverseRecOn with
    | nil => rfl
    | append_singleton text c ih =>
        have before := ih fun start starts => opened start (starts.trans (List.prefix_append _ _))
        have counts := count_add_closing text
        rw [unmatched_concat, Unmatched.advance]
        by_cases stray : c = ')' ∧ (unmatched text).opening = 0
        · obtain ⟨rfl, none_open⟩ := stray
          have whole := opened (text ++ [')']) List.prefix_rfl
          simp only [List.count_append] at whole
          simp at whole
          omega
        · rw [not_and] at stray
          split
          · exact before
          · split
            · rename_i closes
              rw [if_neg (stray closes)]
              exact before
            · exact before

theorem isNested_iff {text : Text} :
    IsNested text ↔ (unmatched text).closing = 0 ∧ (unmatched text).opening = 0 := by
  have counts := count_add_closing text
  constructor
  · rintro ⟨opened, closed⟩
    have none := closing_eq_zero_iff.mpr opened
    omega
  · rintro ⟨none_closing, none_opening⟩
    exact ⟨closing_eq_zero_iff.mp none_closing, by omega⟩

/-- The components of a value: itself or its parts. -/
def components : Value → List Component
  | .single component => [component]
  | .composite _ parts => parts

theorem reads_of_mem_ofTokens {text : Text} {found : Component}
    (member : found ∈ (ofTokens text).components) :
    Reads found.text found ∧ found.text <:+: text := by
  have of_component (token : Text) : Reads (component token).text (component token) := by
    rw [component_text]
    exact reads_component token
  unfold ofTokens at member
  split at member
  · rename_i first second tokens shape
    obtain ⟨token, token_mem, rfl⟩ := List.mem_map.mp member
    rw [← shape] at token_mem
    refine ⟨of_component token, ?_⟩
    rw [component_text]
    exact (run_of_mem_splitTopLevel token_mem).2
  · obtain rfl := List.mem_singleton.mp member
    exact ⟨of_component text, by rw [component_text]⟩

/-- A function in a value was read from a run of the value's text. -/
theorem reads_of_function_mem {property raw text name arguments : Text} {balanced : Bool}
    (member : .function text name arguments balanced ∈ (parse property raw).components) :
    Reads text (.function text name arguments balanced) ∧ text <:+: Text.trim raw := by
  unfold parse at member
  dsimp only at member
  split at member
  · split at member
    · exact absurd (List.mem_singleton.mp member) (by simp)
    · exact reads_of_mem_ofTokens member
  · exact reads_of_mem_ofTokens member

theorem Reads.opens {token text name arguments : Text} {balanced : Bool}
    (reads : Reads token (.function text name arguments balanced)) : '(' ∈ token := by
  cases reads with
  | call written shape =>
      rw [shape, WrittenCall.text]
      simp

/-- The flag of a function compares what is unmatched on both sides. -/
theorem Reads.balanced_iff_unmatched {token text name arguments : Text} {balanced : Bool}
    (reads : Reads token (.function text name arguments balanced)) :
    balanced = true ↔ (unmatched token).closing = (unmatched token).opening := by
  have counts := count_add_closing token
  rw [reads.balanced_iff]
  omega

/-- The flag of a function tells whether its parentheses are nested unless as many are left
open as were closed without having been opened. -/
theorem Reads.balanced_iff_isNested_iff {token text name arguments : Text} {balanced : Bool}
    (reads : Reads token (.function text name arguments balanced)) :
    (balanced = true ↔ IsNested token) ↔
      ¬ (0 < (unmatched token).closing ∧
        (unmatched token).closing = (unmatched token).opening) := by
  rw [reads.balanced_iff_unmatched, isNested_iff]
  omega

end Value

end CssAudit
