import CssAudit.Text.Lemmas
import CssAudit.Value.Tokens
import Mathlib.Data.List.Infix
import Mathlib.Data.List.TakeWhile

/-!
# Where a value calls a URL

The search for calls of URLs finds exactly the runs of a name that folds to `url`,
blanks, and an opening parenthesis.  A text around a call calls a URL too.
-/

namespace CssAudit

namespace Text

theorem dropFolded?_eq_some_iff {pattern text rest : Text} :
    dropFolded? pattern text = some rest ↔
      ∃ start : Text, text = start ++ rest ∧ start.map fold = pattern := by
  induction pattern generalizing text with
  | nil => simp [dropFolded?, eq_comm]
  | cons expected pattern ih =>
      cases text with
      | nil => simp [dropFolded?]
      | cons c text =>
          by_cases same : expected = fold c
          · rw [dropFolded?, if_pos same, ih]
            constructor
            · rintro ⟨start, rfl, rfl⟩
              exact ⟨c :: start, rfl, by simp [same]⟩
            · rintro ⟨start, shape, folds⟩
              cases start with
              | nil => simp at folds
              | cons d start =>
                  rw [List.cons_append, List.cons.injEq] at shape
                  rw [List.map_cons, List.cons.injEq] at folds
                  exact ⟨start, shape.2, folds.2⟩
          · rw [dropFolded?, if_neg same]
            constructor
            · intro none
              exact absurd none (by simp)
            · rintro ⟨start, shape, folds⟩
              cases start with
              | nil => simp at folds
              | cons d start =>
                  rw [List.cons_append, List.cons.injEq] at shape
                  rw [List.map_cons, List.cons.injEq, ← shape.1] at folds
                  exact absurd folds.1.symm same

end Text

namespace Value

/-- A call of a URL up to its opening parenthesis. -/
def IsUrlCall (run : Text) : Prop :=
  ∃ name blanks : Text, run = name ++ (blanks ++ ['(']) ∧
    name.map Text.fold = "url".toList ∧ ∀ c ∈ blanks, Text.isBlank c = true

/-- Whether a text has a call of a URL in it. -/
def CallsUrl (text : Text) : Prop :=
  ∃ run, IsUrlCall run ∧ run <:+: text

theorem CallsUrl.of_infix {inner outer : Text} (calls : CallsUrl inner)
    (within : inner <:+: outer) : CallsUrl outer := by
  obtain ⟨run, call, inside⟩ := calls
  exact ⟨run, call, inside.trans within⟩

theorem trimStart_head?_eq_iff {text : Text} {c : Char} (solid : Text.isBlank c = false) :
    (Text.trimStart text).head? = some c ↔
      ∃ blanks after : Text, text = blanks ++ c :: after ∧
        ∀ d ∈ blanks, Text.isBlank d = true := by
  constructor
  · intro first
    obtain ⟨after, shape⟩ := List.head?_eq_some_iff.mp first
    refine ⟨text.takeWhile Text.isBlank, after, ?_, fun d member => ?_⟩
    · rw [← shape, Text.trimStart, List.takeWhile_append_dropWhile]
    · exact List.mem_takeWhile_imp member
  · rintro ⟨blanks, after, rfl, blank⟩
    rw [Text.trimStart, List.dropWhile_append_of_pos blank,
      List.dropWhile_cons_of_neg (by simp [solid])]
    rfl

theorem startsUrl_iff {text : Text} :
    startsUrl text = true ↔ ∃ run, IsUrlCall run ∧ run <+: text := by
  have solid : Text.isBlank '(' = false := by decide
  constructor
  · intro starts
    unfold startsUrl at starts
    split at starts
    · rename_i rest dropped
      obtain ⟨name, rfl, folds⟩ := Text.dropFolded?_eq_some_iff.mp dropped
      rw [decide_eq_true_eq, trimStart_head?_eq_iff solid] at starts
      obtain ⟨blanks, after, rfl, blank⟩ := starts
      exact ⟨name ++ (blanks ++ ['(']), ⟨name, blanks, rfl, folds, blank⟩, after, by simp⟩
    · exact absurd starts (by simp)
  · rintro ⟨run, ⟨name, blanks, rfl, folds, blank⟩, after, rfl⟩
    have dropped : Text.dropFolded? "url".toList (name ++ (blanks ++ ['(']) ++ after) =
        some (blanks ++ '(' :: after) :=
      Text.dropFolded?_eq_some_iff.mpr ⟨name, by simp, folds⟩
    unfold startsUrl
    rw [dropped]
    simp only [decide_eq_true_eq]
    exact (trimStart_head?_eq_iff solid).mpr ⟨blanks, after, rfl, blank⟩

theorem mentionsUrl_iff {text : Text} : mentionsUrl text = true ↔ CallsUrl text := by
  rw [mentionsUrl, Text.anywhere_eq_true_iff]
  constructor
  · rintro ⟨suffix, ends, starts⟩
    obtain ⟨run, call, begins⟩ := startsUrl_iff.mp starts
    exact ⟨run, call, begins.isInfix.trans ends.isInfix⟩
  · rintro ⟨run, call, within⟩
    obtain ⟨suffix, begins, ends⟩ := List.infix_iff_prefix_suffix.mp within
    exact ⟨suffix, ends, startsUrl_iff.mpr ⟨run, call, begins⟩⟩

end Value

end CssAudit
