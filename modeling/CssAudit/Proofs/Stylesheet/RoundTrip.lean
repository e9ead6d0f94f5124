import CssAudit.Proofs.Gate.Sanitize
import CssAudit.Proofs.OrderedMap
import CssAudit.Proofs.Stylesheet.Comments
import CssAudit.Proofs.Text.Solid
import CssAudit.Stylesheet.Declarations
import Mathlib.Data.List.Infix

/-!
# Rendering and reading back

Declarations with names in normal form and trimmed values are read back from their
rendering exactly if no value has a semicolon and the whole rendering has no comment.
A semicolon never comes back in a value.  A comment costs a slash, and no slash of the
rendering stands outside of the values.
-/

namespace CssAudit

namespace Stylesheet

/-- A declaration that can be rendered: its name is in normal form, its value is
trimmed, and neither is empty. -/
structure IsRenderable (declaration : Text × Text) : Prop where
  name_nonempty : declaration.1 ≠ []
  name_chars : ∀ c ∈ declaration.1, Gate.isNameChar c = true
  value_nonempty : declaration.2 ≠ []
  trimmed : Text.trim declaration.2 = declaration.2

instance (declaration : Text × Text) : Decidable (IsRenderable declaration) :=
  decidable_of_iff (declaration.1 ≠ [] ∧ declaration.1.all Gate.isNameChar = true ∧
      declaration.2 ≠ [] ∧ Text.trim declaration.2 = declaration.2)
    ⟨fun ⟨named, normal, filled, trimmed⟩ =>
        ⟨named, List.all_eq_true.mp normal, filled, trimmed⟩,
      fun ⟨named, normal, filled, trimmed⟩ =>
        ⟨named, List.all_eq_true.mpr normal, filled, trimmed⟩⟩

/-- A declaration as it is rendered. -/
def piece (declaration : Text × Text) : Text :=
  declaration.1 ++ ": ".toList ++ declaration.2

theorem renderDeclarations_nil : renderDeclarations [] = [] := rfl

theorem renderDeclarations_singleton (declaration : Text × Text) :
    renderDeclarations [declaration] = piece declaration := rfl

theorem renderDeclarations_cons (first second : Text × Text)
    (others : List (Text × Text)) :
    renderDeclarations (first :: second :: others) =
      piece first ++ ';' :: ' ' :: renderDeclarations (second :: others) := by
  simp [renderDeclarations, Text.joinWith, piece]

theorem renderDeclarations_ne_nil (first : Text × Text) (others : List (Text × Text)) :
    renderDeclarations (first :: others) ≠ [] := by
  cases others with
  | nil => simp [renderDeclarations_singleton, piece]
  | cons second others => simp [renderDeclarations_cons]

theorem declaration?_eq_some_iff {text name value : Text} :
    declaration? text = some (name, value) ↔
      ∃ before after, Text.cutAt ':' text = some (before, after) ∧
        Text.lower (Text.trim before) = name ∧ Text.trim after = value ∧
          name ≠ [] ∧ value ≠ [] := by
  rw [declaration?]
  cases cut : Text.cutAt ':' text with
  | none => simp
  | some parts =>
      obtain ⟨before, after⟩ := parts
      simp only [Option.bind_eq_bind, Option.bind_some, Option.ite_none_left_eq_some,
        Bool.or_eq_true, List.isEmpty_iff, not_or, Option.some.injEq, Prod.mk.injEq]
      constructor
      · rintro ⟨⟨named, valued⟩, rfl, rfl⟩
        exact ⟨before, after, ⟨rfl, rfl⟩, rfl, rfl, named, valued⟩
      · rintro ⟨_, _, ⟨rfl, rfl⟩, rfl, rfl, named, valued⟩
        exact ⟨⟨named, valued⟩, rfl, rfl⟩

section Name

variable {declaration : Text × Text} (renderable : IsRenderable declaration)
include renderable

theorem IsRenderable.not_mem_name {c : Char} (foreign : Gate.isNameChar c = false) :
    c ∉ declaration.1 := by
  intro member
  rw [renderable.name_chars c member] at foreign
  exact absurd foreign (by decide)

theorem IsRenderable.trim_name : Text.trim declaration.1 = declaration.1 :=
  Gate.trim_eq_self_of_isNameChar renderable.name_chars

/-- Blanks around the name and the value of a declaration are not read. -/
theorem IsRenderable.declaration?_of_pads {name value : Text}
    (name_pads : Text.Pads declaration.1 name) (value_pads : Text.Pads declaration.2 value) :
    declaration? (name ++ ':' :: value) = some declaration := by
  have colon_free : ':' ∉ name := by
    rw [name_pads.mem_iff (by decide)]
    exact renderable.not_mem_name (by decide)
  have cut : Text.cutAt ':' (name ++ ':' :: value) = some (name, value) :=
    Text.cutAt_eq_some_iff.mpr ⟨rfl, colon_free⟩
  have lowered := Gate.lower_eq_self_of_isNameChar renderable.name_chars
  refine declaration?_eq_some_iff.mpr ⟨name, value, cut, ?_, ?_, renderable.name_nonempty,
    renderable.value_nonempty⟩
  · rw [name_pads.trim_eq, renderable.trim_name, lowered]
  · rw [value_pads.trim_eq, renderable.trimmed]

theorem IsRenderable.declaration?_piece :
    declaration? (piece declaration) = some declaration := by
  have shape : piece declaration = declaration.1 ++ ':' :: ([' '] ++ declaration.2) := by
    simp [piece]
  rw [shape]
  exact renderable.declaration?_of_pads (Text.pads_self declaration.1)
    ((Text.pads_self declaration.2).gap_append Text.isGap_space)

theorem IsRenderable.not_mem_piece (separated : ';' ∉ declaration.2) :
    ';' ∉ piece declaration := by
  simp [piece, renderable.not_mem_name (show Gate.isNameChar ';' = false by decide),
    separated]

theorem IsRenderable.not_opensComment_piece (uncommented : ¬ OpensComment declaration.2) :
    ¬ OpensComment (piece declaration) := by
  have slashless : '/' ∉ declaration.1 ++ [':'] := by
    simp [renderable.not_mem_name (show Gate.isNameChar '/' = false by decide)]
  have shape : piece declaration = (declaration.1 ++ [':']) ++ ' ' :: declaration.2 := by
    simp [piece]
  rw [shape]
  exact not_opensComment_append_cons (by decide) (not_opensComment_of_not_mem slashless)
    uncommented

theorem IsRenderable.count_piece : (piece declaration).count '/' =
    declaration.2.count '/' := by
  have absent : declaration.1.count '/' = 0 :=
    List.count_eq_zero.mpr (renderable.not_mem_name (by decide))
  simp [piece, absent]

end Name

theorem declaration?_cons_blank {c : Char} (blank : Text.isBlank c = true) (text : Text) :
    declaration? (c :: text) = declaration? text := by
  have different : c ≠ ':' := by
    rintro rfl
    exact absurd blank (by decide)
  simp only [declaration?, Text.cutAt, if_neg different]
  cases Text.cutAt ':' text with
  | none => rfl
  | some parts => simp [Text.trim_cons_blank blank]

theorem declarationsOf_cons_blank {c : Char} (blank : Text.isBlank c = true)
    (text : Text) : declarationsOf (c :: text) = declarationsOf text := by
  have different : c ≠ ';' := by
    rintro rfl
    exact absurd blank (by decide)
  obtain ⟨first, others, shape⟩ :=
    List.exists_cons_of_ne_nil (Text.splitOn_ne_nil ';' text)
  rw [declarationsOf, declarationsOf, Text.splitOn_cons_of_ne different shape, shape,
    List.filterMap_cons, List.filterMap_cons, declaration?_cons_blank blank]

theorem declarationsOf_append (before after : Text) :
    declarationsOf (before ++ ';' :: after) =
      declarationsOf before ++ declarationsOf after := by
  simp [declarationsOf, Text.splitOn_append_separator]

theorem IsRenderable.declarationsOf_piece {declaration : Text × Text}
    (renderable : IsRenderable declaration) (separated : ';' ∉ declaration.2) :
    declarationsOf (piece declaration) = [declaration] := by
  rw [declarationsOf, Text.splitOn_eq_singleton (renderable.not_mem_piece separated)]
  simp [renderable.declaration?_piece]

theorem declarationsOf_renderDeclarations {entries : List (Text × Text)}
    (renderable : ∀ entry ∈ entries, IsRenderable entry)
    (separated : ∀ entry ∈ entries, ';' ∉ entry.2) :
    declarationsOf (renderDeclarations entries) = entries := by
  induction entries with
  | nil => rfl
  | cons first entries ih =>
      obtain ⟨first_renderable, others_renderable⟩ := List.forall_mem_cons.mp renderable
      obtain ⟨first_separated, others_separated⟩ := List.forall_mem_cons.mp separated
      have start := first_renderable.declarationsOf_piece first_separated
      cases entries with
      | nil => rw [renderDeclarations_singleton, start]
      | cons second entries =>
          rw [renderDeclarations_cons, declarationsOf_append, start,
            declarationsOf_cons_blank (by decide), ih others_renderable others_separated,
            List.singleton_append]

theorem mem_renderDeclarations {entries : List (Text × Text)} {c : Char}
    (member : c ∈ renderDeclarations entries) :
    c ∈ [';', ':', ' '] ∨ ∃ entry ∈ entries, c ∈ entry.1 ∨ c ∈ entry.2 := by
  by_cases added : c ∈ [';', ':', ' ']
  · exact .inl added
  · have part : "; ".toList.Sublist [';', ':', ' '] := by decide
    have avoids : ∀ d ∈ "; ".toList, d ∉ [c] := by
      intro d within single
      obtain rfl := List.mem_singleton.mp single
      exact added (part.subset within)
    obtain ⟨found, found_mem, within⟩ := Text.exists_infix_of_infix_joinWith (by simp)
      (by decide) avoids ((List.singleton_infix_iff c _).mpr member)
    obtain ⟨entry, entry_mem, rfl⟩ := List.mem_map.mp found_mem
    have inside : c ∈ entry.1 ++ ": ".toList ++ entry.2 :=
      (List.singleton_infix_iff c _).mp within
    simp only [List.mem_append] at inside
    rcases inside with (name | between) | value
    · exact .inr ⟨entry, entry_mem, .inl name⟩
    · exact absurd (List.mem_cons_of_mem _ between) added
    · exact .inr ⟨entry, entry_mem, .inr value⟩

theorem head?_renderDeclarations {entries : List (Text × Text)}
    (renderable : ∀ entry ∈ entries, IsRenderable entry) {c : Char}
    (first : (renderDeclarations entries).head? = some c) : Gate.isNameChar c = true := by
  have start {declaration : Text × Text} (fit : IsRenderable declaration) {rest : Text}
      (starts : (piece declaration ++ rest).head? = some c) :
      Gate.isNameChar c = true := by
    obtain ⟨d, name, shape⟩ := List.exists_cons_of_ne_nil fit.name_nonempty
    obtain rfl : d = c := by simpa [piece, shape] using starts
    exact fit.name_chars d (by simp [shape])
  cases entries with
  | nil => simp [renderDeclarations_nil] at first
  | cons declaration entries =>
      have fit := renderable declaration List.mem_cons_self
      cases entries with
      | nil =>
          rw [renderDeclarations_singleton, ← List.append_nil (piece declaration)] at first
          exact start fit first
      | cons second entries =>
          rw [renderDeclarations_cons] at first
          exact start fit first

theorem getLast?_renderDeclarations {entries : List (Text × Text)}
    (renderable : ∀ entry ∈ entries, IsRenderable entry) :
    ∀ c, (renderDeclarations entries).getLast? = some c → Text.isBlank c = false := by
  induction entries with
  | nil => simp [renderDeclarations_nil]
  | cons declaration entries ih =>
      obtain ⟨fit, others⟩ := List.forall_mem_cons.mp renderable
      cases entries with
      | nil =>
          intro c last
          rw [renderDeclarations_singleton, piece,
            List.getLast?_append_of_ne_nil _ fit.value_nonempty] at last
          rw [← fit.trimmed] at last
          exact Text.getLast?_trim c last
      | cons second entries =>
          intro c last
          have shape : piece declaration ++ ';' :: ' ' ::
                renderDeclarations (second :: entries) =
              (piece declaration ++ [';', ' ']) ++
                renderDeclarations (second :: entries) := by simp
          rw [renderDeclarations_cons, shape,
            List.getLast?_append_of_ne_nil _ (renderDeclarations_ne_nil second entries)]
            at last
          exact ih others c last

theorem dropBraces_eq_self {text : Text} (starts : text.head? ≠ some '{') :
    dropBraces text = text := by
  rw [dropBraces, if_neg (by simp [starts])]

/-- Nothing but the comments stands in the way of reading the declarations of a
rendering. -/
theorem dropBraces_trim_renderDeclarations {entries : List (Text × Text)}
    (renderable : ∀ entry ∈ entries, IsRenderable entry) :
    dropBraces (Text.trim (renderDeclarations entries)) = renderDeclarations entries := by
  have trimmed : Text.trim (renderDeclarations entries) = renderDeclarations entries :=
    Text.trim_eq_self
      (fun _ first =>
        Gate.isBlank_of_isNameChar (head?_renderDeclarations renderable first))
      (getLast?_renderDeclarations renderable)
  have open_start : (renderDeclarations entries).head? ≠ some '{' := by
    intro first
    exact absurd (head?_renderDeclarations renderable first) (by decide)
  rw [trimmed, dropBraces_eq_self open_start]

theorem exists_renderDeclarations_cons (first : Text × Text) (others : List (Text × Text)) :
    ∃ rest, renderDeclarations (first :: others) = first.1 ++ ':' :: rest := by
  cases others with
  | nil => exact ⟨' ' :: first.2, by simp [renderDeclarations_singleton, piece]⟩
  | cons second others =>
      exact ⟨' ' :: first.2 ++ ';' :: ' ' :: renderDeclarations (second :: others),
        by simp [renderDeclarations_cons, piece]⟩

/-- Renderings of the same declarations show their order. -/
theorem renderDeclarations_inj {first second : OrderedMap Text Text}
    (distinct : OrderedMap.Distinct first) (perm : first.Perm second)
    (renderable : ∀ entry ∈ first, IsRenderable entry)
    (same : renderDeclarations first = renderDeclarations second) : first = second := by
  induction first generalizing second with
  | nil => exact perm.nil_eq
  | cons entry entries ih =>
      cases second with
      | nil => exact absurd same (renderDeclarations_ne_nil entry entries)
      | cons other others =>
          obtain rfl : entry = other := by
            have other_mem : other ∈ entry :: entries := perm.mem_iff.mpr List.mem_cons_self
            obtain ⟨rest, rendered⟩ := exists_renderDeclarations_cons entry entries
            obtain ⟨other_rest, other_rendered⟩ := exists_renderDeclarations_cons other others
            have start := Text.cutAt_eq_some_iff.mpr ⟨rendered,
              (renderable entry List.mem_cons_self).not_mem_name (by decide)⟩
            have other_start := Text.cutAt_eq_some_iff.mpr ⟨other_rendered,
              (renderable other other_mem).not_mem_name (by decide)⟩
            rw [same, other_start] at start
            have names : other.1 = entry.1 := (Prod.mk.inj (Option.some.inj start)).1
            exact distinct.eq_of_mem List.mem_cons_self other_mem names.symm
          have tails : entries.Perm others := perm.cons_inv
          have rendered : renderDeclarations entries = renderDeclarations others := by
            cases entries with
            | nil => rw [tails.nil_eq]
            | cons next entries =>
                obtain ⟨_, _, rfl⟩ := List.exists_cons_of_ne_nil
                  (fun empty => by simpa [empty] using tails.length_eq : others ≠ [])
                rw [renderDeclarations_cons, renderDeclarations_cons] at same
                simpa using same
          rw [ih (List.nodup_cons.mp distinct).2 tails
            (fun entry member => renderable entry (List.mem_cons_of_mem _ member)) rendered]

/-- What a piece holds: the value is a trimmed part of it. -/
theorem of_declaration? {text : Text} {declaration : Text × Text}
    (read : declaration? text = some declaration) :
    declaration.2.Sublist text ∧ declaration.2 ≠ [] ∧
      Text.trim declaration.2 = declaration.2 := by
  obtain ⟨before, after, cut, -, value_eq, -, nonempty⟩ := declaration?_eq_some_iff.mp read
  refine ⟨?_, nonempty, by rw [← value_eq, Text.trim_trim]⟩
  rw [← value_eq, (Text.cutAt_eq_some_iff.mp cut).1]
  exact (Text.trim_sublist after).trans
    ((List.sublist_cons_self ':' after).trans (List.sublist_append_right before _))

theorem name_of_mem_declarationsOf {body : Text} {declaration : Text × Text}
    (member : declaration ∈ declarationsOf body) :
    declaration.1 ≠ [] ∧ Text.trim declaration.1 = declaration.1 := by
  obtain ⟨text, -, read⟩ := List.mem_filterMap.mp member
  obtain ⟨before, after, -, name_eq, -, nonempty, -⟩ := declaration?_eq_some_iff.mp read
  exact ⟨nonempty, by rw [← name_eq, Text.trim_lower_trim]⟩

/-- What is read from a block: values are trimmed, not empty, and hold no semicolon. -/
theorem of_mem_parseDeclarations {text : Text} {declaration : Text × Text}
    (member : declaration ∈ parseDeclarations text) :
    ';' ∉ declaration.2 ∧ declaration.2 ≠ [] ∧
      Text.trim declaration.2 = declaration.2 := by
  obtain ⟨found, found_mem, read⟩ :=
    List.mem_filterMap.mp (OrderedMap.mem_of_mem_ofList member)
  obtain ⟨part, nonempty, trimmed⟩ := of_declaration? read
  exact ⟨fun within => Text.not_mem_of_mem_splitOn found_mem (part.subset within),
    nonempty, trimmed⟩

theorem sum_count_splitOn_le (separator c : Char) (text : Text) :
    ((Text.splitOn separator text).map (List.count c)).sum ≤ text.count c := by
  induction text with
  | nil => simp [Text.splitOn]
  | cons d rest ih =>
      by_cases same : d = separator
      · have bound : rest.count c ≤ (d :: rest).count c := List.count_le_count_cons
        simp only [Text.splitOn, if_pos same, List.map_cons, List.count_nil,
          List.sum_cons, Nat.zero_add]
        exact ih.trans bound
      · obtain ⟨first, others, shape⟩ :=
          List.exists_cons_of_ne_nil (Text.splitOn_ne_nil separator rest)
        rw [shape] at ih
        rw [Text.splitOn_cons_of_ne same shape]
        simp only [List.map_cons, List.sum_cons, List.count_cons] at ih ⊢
        omega

/-- The values of the declarations of a block are separate parts of it. -/
theorem total_declarationsOf_le (body : Text) :
    OrderedMap.total (List.count '/') (declarationsOf body) ≤ body.count '/' := by
  refine Nat.le_trans ?_ (sum_count_splitOn_le ';' '/' body)
  rw [declarationsOf]
  induction Text.splitOn ';' body with
  | nil => simp [OrderedMap.total]
  | cons text pieces ih =>
      rw [List.filterMap_cons, List.map_cons, List.sum_cons]
      cases read : declaration? text with
      | none => exact Nat.le_add_left_of_le ih
      | some declaration =>
          have bound := (of_declaration? read).1.count_le '/'
          simp only [OrderedMap.total, List.map_cons, List.sum_cons] at ih ⊢
          omega

theorem dropBraces_sublist (text : Text) : (dropBraces text).Sublist text := by
  unfold dropBraces
  split
  · exact (List.dropLast_sublist _).trans (List.tail_sublist _)
  · exact List.Sublist.refl text

/-- What is read from a block holds no slash of its comments. -/
theorem total_parseDeclarations_le (text : Text) :
    OrderedMap.total (List.count '/') (parseDeclarations text) ≤
      (stripComments text).count '/' :=
  calc OrderedMap.total (List.count '/') (parseDeclarations text)
      ≤ OrderedMap.total (List.count '/')
          (declarationsOf (dropBraces (Text.trim (stripComments text)))) :=
        OrderedMap.total_ofList_le _ _
    _ ≤ (dropBraces (Text.trim (stripComments text))).count '/' :=
        total_declarationsOf_le _
    _ ≤ (stripComments text).count '/' :=
        ((dropBraces_sublist _).trans (Text.trim_sublist _)).count_le '/'

/-- The slashes of a rendering are those of its values. -/
theorem count_renderDeclarations {entries : List (Text × Text)}
    (renderable : ∀ entry ∈ entries, IsRenderable entry) :
    (renderDeclarations entries).count '/' =
      OrderedMap.total (List.count '/') entries := by
  induction entries with
  | nil => rfl
  | cons first entries ih =>
      obtain ⟨fit, others⟩ := List.forall_mem_cons.mp renderable
      have start := fit.count_piece
      cases entries with
      | nil => simp [renderDeclarations_singleton, OrderedMap.total, start]
      | cons second entries =>
          have later := ih others
          rw [renderDeclarations_cons, List.count_append, start]
          simp only [OrderedMap.total, List.map_cons, List.sum_cons, List.count_cons,
            beq_iff_eq, Char.reduceEq, if_false] at later ⊢
          omega

/-- Declarations of distinct names are read back from their rendering exactly if no
value has a semicolon and the rendering has no comment. -/
theorem parseDeclarations_renderDeclarations_iff {entries : OrderedMap Text Text}
    (distinct : OrderedMap.Distinct entries)
    (renderable : ∀ entry ∈ entries, IsRenderable entry) :
    parseDeclarations (renderDeclarations entries) = entries ↔
      (∀ entry ∈ entries, ';' ∉ entry.2) ∧ ¬ HasComment (renderDeclarations entries) := by
  constructor
  · intro same
    refine ⟨fun entry member => ?_, fun present => ?_⟩
    · rw [← same] at member
      exact (of_mem_parseDeclarations member).1
    -- Stripping a comment loses a slash that the values would have to bring back.
    · have kept := total_parseDeclarations_le (renderDeclarations entries)
      rw [same, ← count_renderDeclarations renderable] at kept
      exact Nat.not_lt_of_le kept (count_stripComments_lt present)
  · rintro ⟨separated, absent⟩
    rw [parseDeclarations, stripComments_eq_self_iff.mpr absent,
      dropBraces_trim_renderDeclarations renderable,
      declarationsOf_renderDeclarations renderable separated,
      OrderedMap.ofList_eq_self distinct]

end Stylesheet

end CssAudit
