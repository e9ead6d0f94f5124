import CssAudit.Proofs.Stylesheet.Blocks
import CssAudit.Proofs.Stylesheet.Comments

/-!
# One style sheet after another

A closing brace is a seam: a text that ends with one and leaves no comment open is
read on its own, whatever follows it.  Blocks that are still open there do not
matter, since the reading starts anew after each brace.
-/

namespace CssAudit

namespace Stylesheet

/-- Whether the reading of a text and a closing brace does not depend on what follows
the brace. -/
def Seals (inside : Bool) (text : Text) : Prop :=
  ∃ kept, ∀ after, stripFrom inside (text ++ '}' :: after) =
    (stripFrom false after).map fun rest => kept ++ '}' :: rest

theorem Seals.cons {c : Char} {text : Text}
    (first : ∀ after, stripFrom false (c :: (text ++ '}' :: after)) =
      (stripFrom false (text ++ '}' :: after)).map (c :: ·))
    (seals : Seals false text) : Seals false (c :: text) := by
  obtain ⟨kept, later⟩ := seals
  refine ⟨c :: kept, fun after => ?_⟩
  rw [List.cons_append, first, later, Option.map_map]
  rfl

theorem head?_append_brace {text : Text} {c : Char} (other : c ≠ '}')
    (absent : ∀ rest, text ≠ c :: rest) (after : Text) :
    (text ++ '}' :: after).head? ≠ some c := by
  cases text with
  | nil => simpa using other.symm
  | cons d rest =>
      rintro ⟨⟩
      exact absent rest rfl

/-- A comment seals what it begins if it does not stay open. -/
theorem seals_of_opening {rest out : Text}
    (ran : stripFrom false ('/' :: '*' :: (rest ++ ['}'])) = some out)
    (closed : ¬ OpensComment out)
    (inner_seals : stripFrom true (rest ++ ['}']) = some out → Seals true rest) :
    Seals false ('/' :: '*' :: rest) := by
  have opening (after : Text) : stripFrom false ('/' :: '*' :: (rest ++ '}' :: after)) =
      some ((stripFrom true (rest ++ '}' :: after)).getD
        ('/' :: '*' :: (rest ++ '}' :: after))) := rfl
  have start := (opening []).symm.trans ran
  cases inner : stripFrom true (rest ++ ['}']) with
  | none =>
      -- A comment that stays open leaves its opening in the text.
      rw [inner, Option.getD_none, Option.some.injEq] at start
      subst start
      exact absurd (List.prefix_append ['/', '*'] _).isInfix closed
  | some found =>
      rw [inner, Option.getD_some, Option.some.injEq] at start
      subst start
      obtain ⟨kept, later⟩ := inner_seals inner
      refine ⟨kept, fun after => ?_⟩
      obtain ⟨stripped, stripped_eq, -⟩ := stripFrom_false_spec after
      rw [List.cons_append, List.cons_append, opening, later, stripped_eq,
        Option.map_some, Option.getD_some]

/-- A closing brace outside of comments seals the text before it. -/
theorem seals_of_stripFrom (inside : Bool) (text : Text) {out : Text}
    (ran : stripFrom inside (text ++ ['}']) = some out) (closed : ¬ OpensComment out) :
    Seals inside text := by
  fun_induction stripFrom inside text generalizing out with
  | case1 => simp [stripFrom] at ran
  | case2 inside outside =>
      obtain rfl : inside = false := by simpa using outside
      exact ⟨[], fun after => stripFrom_false_cons (by rintro ⟨⟨⟩, _⟩)⟩
  | case3 rest ih => exact ih ran closed
  | case4 inside rest outside ih =>
      obtain rfl : inside = false := by simpa using outside
      exact seals_of_opening ran closed fun inner => ih inner closed
  | case5 rest ih => exact ih ran closed
  | case6 inside rest outside ih =>
      obtain rfl : inside = false := by simpa using outside
      obtain ⟨found, found_eq, rfl⟩ := Option.map_eq_some_iff.mp ran
      refine .cons (fun after => stripFrom_false_cons ?_)
        (ih found_eq (not_opensComment_of_cons closed))
      rintro ⟨⟨⟩, _⟩
  | case7 c rest _ unclosing ih =>
      have next (after : Text) : stripFrom true (c :: (rest ++ '}' :: after)) =
          stripFrom true (rest ++ '}' :: after) := by
        rw [stripFrom_true_cons, if_neg]
        rintro ⟨rfl, slash⟩
        have unclosed := fun tail shape => unclosing tail rfl shape
        exact head?_append_brace (by decide) unclosed after slash
      obtain ⟨kept, later⟩ := ih ((next []).symm.trans ran) closed
      exact ⟨kept, fun after => (next after).trans (later after)⟩
  | case8 inside c rest unopening _ outside ih =>
      obtain rfl : inside = false := by simpa using outside
      have first (after : Text) : stripFrom false (c :: (rest ++ '}' :: after)) =
          (stripFrom false (rest ++ '}' :: after)).map (c :: ·) := by
        apply stripFrom_false_cons
        rintro ⟨rfl, star⟩
        exact head?_append_brace (by decide) (fun tail shape => unopening tail rfl shape) after star
      obtain ⟨found, found_eq, rfl⟩ := Option.map_eq_some_iff.mp ((first []).symm.trans ran)
      exact .cons first (ih found_eq (not_opensComment_of_cons closed))

/-- The comments of two texts are stripped one text after the other, if the first ends
with a closing brace and leaves no comment open. -/
theorem stripComments_append_brace {text : Text}
    (closed : ¬ OpensComment (stripComments (text ++ ['}']))) :
    ∃ kept, ∀ after, stripComments (text ++ '}' :: after) =
      kept ++ '}' :: stripComments after := by
  obtain ⟨kept, later⟩ := seals_of_stripFrom false text (stripFrom_false_eq _) closed
  refine ⟨kept, fun after => ?_⟩
  have both := later after
  rw [stripFrom_false_eq, stripFrom_false_eq, Option.map_some] at both
  exact Option.some.inj both

/-- A brace ends the chunks of the text before it. -/
theorem chunks_append_brace (text : Text) :
    ∃ first last, ∀ after, chunks (text ++ '}' :: after) =
      first ++ (last, '}') :: chunks after := by
  induction text with
  | nil => exact ⟨[], [], fun after => rfl⟩
  | cons c text ih =>
      obtain ⟨first, last, later⟩ := ih
      by_cases brace : c = '{' ∨ c = '}'
      · refine ⟨([], c) :: first, last, fun after => ?_⟩
        rw [List.cons_append, chunks, if_pos (by simpa using brace), later, List.cons_append]
      · cases first with
        | nil =>
            refine ⟨[], c :: last, fun after => ?_⟩
            rw [List.cons_append, chunks, if_neg (by simpa using brace), later]
            rfl
        | cons chunk first =>
            refine ⟨(c :: chunk.1, chunk.2) :: first, last, fun after => ?_⟩
            rw [List.cons_append, chunks, if_neg (by simpa using brace), later]
            rfl

/-- No block begins with a closing brace. -/
theorem blocks_append_brace (first : List (Text × Char)) (last : Text)
    (others : List (Text × Char)) :
    blocks (first ++ (last, '}') :: others) =
      blocks (first ++ [(last, '}')]) ++ blocks others := by
  induction first with
  | nil => cases others <;> simp [blocks]
  | cons chunk first ih =>
      cases first with
      | nil =>
          simp only [List.cons_append, List.nil_append] at ih ⊢
          rw [blocks, blocks, ih]
          split <;> simp
      | cons next first =>
          simp only [List.cons_append] at ih ⊢
          rw [blocks, blocks, ih]
          split <;> simp

/-- The rules of two texts are read one text after the other, if the first ends with a
closing brace. -/
theorem rulesIn_append_brace (text after : Text) :
    rulesIn (text ++ '}' :: after) = rulesIn (text ++ ['}']) ++ rulesIn after := by
  obtain ⟨first, last, shape⟩ := chunks_append_brace text
  have alone : chunks (text ++ ['}']) = first ++ [(last, '}')] := shape []
  rw [rulesIn, shape, blocks_append_brace, List.filterMap_append, rulesIn, alone, rulesIn]

theorem parse_append {first second : Text} (ends : first.getLast? = some '}')
    (closed : ¬ OpensComment (stripComments first)) :
    (parse (first ++ second)).rules = (parse first).rules ++ (parse second).rules := by
  obtain ⟨text, rfl⟩ := List.getLast?_eq_some_iff.mp ends
  obtain ⟨kept, stripped⟩ := stripComments_append_brace closed
  have alone : stripComments (text ++ ['}']) = kept ++ ['}'] := stripped []
  rw [parse_rules, parse_rules, parse_rules, List.append_assoc, List.singleton_append, stripped,
    alone, rulesIn_append_brace]

end Stylesheet

end CssAudit
