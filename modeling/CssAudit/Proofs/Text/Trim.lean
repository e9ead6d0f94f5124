import CssAudit.Text.Blank
import Mathlib.Data.List.TakeWhile

/-!
# Trimmed texts

Trimming takes only blanks away, leaves a text that neither starts nor ends with
one, and does nothing to such a text.
-/

namespace CssAudit

namespace Text

theorem trimStart_sublist (text : Text) : (trimStart text).Sublist text :=
  List.dropWhile_sublist isBlank

theorem trimEnd_sublist (text : Text) : (trimEnd text).Sublist text := by
  have reversed := (trimStart_sublist text.reverse).reverse
  rwa [List.reverse_reverse] at reversed

theorem trim_sublist (text : Text) : (trim text).Sublist text :=
  (trimEnd_sublist (trimStart text)).trans (trimStart_sublist text)

theorem mem_trimStart {c : Char} (solid : isBlank c = false) {text : Text} :
    c ∈ trimStart text ↔ c ∈ text := by
  constructor
  · exact fun member => (trimStart_sublist text).subset member
  · intro member
    rw [← List.takeWhile_append_dropWhile (p := isBlank) (l := text), List.mem_append] at member
    rcases member with start | rest
    · have blank := List.mem_takeWhile_imp start
      simp [solid] at blank
    · exact rest

theorem mem_trim {c : Char} (solid : isBlank c = false) {text : Text} :
    c ∈ trim text ↔ c ∈ text := by
  rw [trim, trimEnd, List.mem_reverse, mem_trimStart solid, List.mem_reverse,
    mem_trimStart solid]

theorem trimEnd_prefix (text : Text) : trimEnd text <+: text := by
  have ends : trimStart text.reverse <:+ text.reverse := List.dropWhile_suffix isBlank
  have starts := List.reverse_prefix.mpr ends
  rwa [List.reverse_reverse] at starts

theorem head?_trim {text : Text} : ∀ c, (trim text).head? = some c → isBlank c = false := by
  intro c first
  obtain ⟨after, shape⟩ := trimEnd_prefix (trimStart text)
  obtain ⟨rest, rest_eq⟩ := List.head?_eq_some_iff.mp first
  have start : (trimStart text).head? = some c := by
    rw [← shape, ← trim, rest_eq]
    rfl
  exact isBlank_of_head?_trimStart start

theorem getLast?_trim {text : Text} : ∀ c, (trim text).getLast? = some c →
    isBlank c = false := by
  intro c last
  rw [trim, trimEnd, List.getLast?_reverse] at last
  exact isBlank_of_head?_trimStart last

theorem trim_trim (text : Text) : trim (trim text) = trim text :=
  trim_eq_self head?_trim getLast?_trim

theorem trim_eq_self_of_solid {text : Text} (solid : ∀ c ∈ text, isBlank c = false) :
    trim text = text :=
  trim_eq_self (fun c first => solid c (List.mem_of_mem_head? first))
    fun c last => solid c (List.mem_of_mem_getLast? last)

theorem trim_cons_blank {c : Char} (blank : isBlank c = true) (text : Text) :
    trim (c :: text) = trim text := by
  rw [trim, trimStart, List.dropWhile_cons_of_pos blank, trim, trimStart]

end Text

end CssAudit
