import CssAudit.Proofs.Stylesheet.RoundTrip

/-!
# Declaration blocks around their declarations

A declaration block may end with a semicolon, and braces may enclose it.  Neither is read
as a part of its declarations, whatever braces, colons, quotes and flags stand in their
values.
-/

namespace CssAudit

namespace Stylesheet

theorem renderDeclarations_not_opensComment {entries : List (Text × Text)}
    (renderable : ∀ entry ∈ entries, IsRenderable entry)
    (uncommented : ∀ entry ∈ entries, ¬ OpensComment entry.2) :
    ¬ OpensComment (renderDeclarations entries) := by
  induction entries with
  | nil => decide
  | cons first entries ih =>
      obtain ⟨first_renderable, others_renderable⟩ := List.forall_mem_cons.mp renderable
      obtain ⟨first_uncommented, others_uncommented⟩ := List.forall_mem_cons.mp uncommented
      have start := first_renderable.not_opensComment_piece first_uncommented
      cases entries with
      | nil => rwa [renderDeclarations_singleton]
      | cons second entries =>
          rw [renderDeclarations_cons]
          exact not_opensComment_append_cons (by decide) start
            (not_opensComment_gap_append Text.isGap_space
              (ih others_renderable others_uncommented))

theorem dropBraces_enclosed (body : Text) : dropBraces ('{' :: (body ++ ['}'])) = body := by
  have last : ('{' :: (body ++ ['}'])).getLast? = some '}' := by
    rw [← List.cons_append, List.getLast?_concat]
  rw [dropBraces, if_pos (by rw [last]; rfl), List.tail_cons, List.dropLast_concat]

/-- The end of a declaration block: a semicolon or nothing. -/
def IsEnding (ending : Text) : Prop :=
  ending = [] ∨ ending = [';']

section Ending

variable {entries : List (Text × Text)} (renderable : ∀ entry ∈ entries, IsRenderable entry)
  {ending : Text} (ends : IsEnding ending)
include renderable ends

theorem head?_renderDeclarations_append {c : Char}
    (first : (renderDeclarations entries ++ ending).head? = some c) :
    Text.isBlank c = false ∧ c ≠ '{' := by
  have semicolon : Text.isBlank ';' = false ∧ ';' ≠ '{' := by decide
  cases entries with
  | nil =>
      rcases ends with rfl | rfl
      · exact absurd first (by simp [renderDeclarations_nil])
      · obtain rfl : ';' = c := by simpa [renderDeclarations_nil] using first
        exact semicolon
  | cons entry entries =>
      rw [List.head?_append_of_ne_nil _ (renderDeclarations_ne_nil entry entries)] at first
      have letter := head?_renderDeclarations renderable first
      refine ⟨Gate.isBlank_of_isNameChar letter, ?_⟩
      rintro rfl
      exact absurd letter (by decide)

theorem getLast?_renderDeclarations_append :
    ∀ c, (renderDeclarations entries ++ ending).getLast? = some c → Text.isBlank c = false := by
  intro c last
  rcases ends with rfl | rfl
  · rw [List.append_nil] at last
    exact getLast?_renderDeclarations renderable c last
  · rw [List.getLast?_concat] at last
    obtain rfl := Option.some.inj last
    decide

theorem declarationsOf_renderDeclarations_append (separated : ∀ entry ∈ entries, ';' ∉ entry.2) :
    declarationsOf (renderDeclarations entries ++ ending) = entries := by
  have read := declarationsOf_renderDeclarations renderable separated
  rcases ends with rfl | rfl
  · rw [List.append_nil, read]
  · rw [declarationsOf_append, read]
    exact List.append_nil entries

end Ending

/-- Declarations of distinct names are read back from a block, with or without a final
semicolon, and with or without braces around it. -/
theorem parseDeclarations_block {entries : OrderedMap Text Text}
    (distinct : OrderedMap.Distinct entries)
    (renderable : ∀ entry ∈ entries, IsRenderable entry)
    (separated : ∀ entry ∈ entries, ';' ∉ entry.2)
    (uncommented : ∀ entry ∈ entries, ¬ OpensComment entry.2)
    {ending : Text} (ends : IsEnding ending) :
    parseDeclarations (renderDeclarations entries ++ ending) = entries ∧
      parseDeclarations ('{' :: (renderDeclarations entries ++ ending ++ ['}'])) = entries := by
  have body_starts {c : Char} := head?_renderDeclarations_append renderable ends (c := c)
  have collected : OrderedMap.ofList
      (declarationsOf (renderDeclarations entries ++ ending)) = entries := by
    rw [declarationsOf_renderDeclarations_append renderable ends separated,
      OrderedMap.ofList_eq_self distinct]
  have body_closed : ¬ OpensComment (renderDeclarations entries ++ ending) := by
    have rendered := renderDeclarations_not_opensComment renderable uncommented
    rcases ends with rfl | rfl
    · rwa [List.append_nil]
    · exact not_opensComment_append_cons (by decide) rendered (by decide)
  constructor
  · have trimmed : Text.trim (renderDeclarations entries ++ ending) =
        renderDeclarations entries ++ ending :=
      Text.trim_eq_self (fun _ first => (body_starts first).1)
        (getLast?_renderDeclarations_append renderable ends)
    have unbraced : (renderDeclarations entries ++ ending).head? ≠ some '{' :=
      fun first => (body_starts first).2 rfl
    rw [parseDeclarations, stripComments_eq_self body_closed, trimmed,
      dropBraces_eq_self unbraced, collected]
  · have closed : ¬ OpensComment ('{' :: (renderDeclarations entries ++ ending ++ ['}'])) :=
      not_opensComment_append_cons (by decide) (by decide : ¬ OpensComment [])
        (not_opensComment_append_cons (by decide) body_closed (by decide))
    have trimmed : Text.trim ('{' :: (renderDeclarations entries ++ ending ++ ['}'])) =
        '{' :: (renderDeclarations entries ++ ending ++ ['}']) := by
      refine Text.trim_eq_self (fun c first => ?_) fun c last => ?_
      · obtain rfl := Option.some.inj first
        decide
      · rw [← List.cons_append, List.getLast?_concat] at last
        obtain rfl := Option.some.inj last
        decide
    rw [parseDeclarations, stripComments_eq_self closed, trimmed, dropBraces_enclosed, collected]

/-- Braces, a colon and a flag in the values, and a value that ends with a brace. -/
theorem parseDeclarations_block_on_braces :
    parseDeclarations "\x7bcontent: a: \x7b\"*/\"; b-1: rgb(0 !important\x7d;\x7d".toList =
      [("content".toList, "a: \x7b\"*/\"".toList),
        ("b-1".toList, "rgb(0 !important\x7d".toList)] := by
  let entries : OrderedMap Text Text := [("content".toList, "a: \x7b\"*/\"".toList),
    ("b-1".toList, "rgb(0 !important\x7d".toList)]
  have distinct : OrderedMap.Distinct entries := by decide
  have renderable : ∀ entry ∈ entries, IsRenderable entry := by decide
  have separated : ∀ entry ∈ entries, ';' ∉ entry.2 := by decide
  have uncommented : ∀ entry ∈ entries, ¬ OpensComment entry.2 := by decide
  have shape : "\x7bcontent: a: \x7b\"*/\"; b-1: rgb(0 !important\x7d;\x7d".toList =
      '{' :: (renderDeclarations entries ++ [';'] ++ ['}']) := by decide
  rw [shape]
  exact (parseDeclarations_block distinct renderable separated uncommented (.inr rfl)).2

end Stylesheet

end CssAudit
