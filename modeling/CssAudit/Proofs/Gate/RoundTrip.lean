import CssAudit.Proofs.Gate.Rendering
import CssAudit.Proofs.Stylesheet.RoundTrip

/-!
# Inline styles read back

An inline style is read back as the styles it renders exactly if no rendered value has
a semicolon and the whole has no comment.  Rendering what was read back gives the same
text exactly if what was read back renders to it and consists of settled declarations,
which the gate leaves as they are.  Batches of plain values always come back.
-/

namespace CssAudit

namespace Gate

open Stylesheet

theorem Stems.isRenderable {batch : Batch} {declaration : Text × Text}
    (stems : Stems batch declaration) : IsRenderable declaration :=
  have name := name_of_allowed stems.allowed
  { name_nonempty := name.1
    name_chars := name.2
    value_nonempty := stems.nonempty
    trimmed := stems.trimmed }

theorem isRenderable_of_mem_styles {batch : Batch} {styles : OrderedMap Text Text}
    (ran : inlineStyles batch = .ok styles) :
    ∀ declaration ∈ styles, IsRenderable declaration :=
  fun declaration member => ((inlineStyles_spec ran).2 declaration member).isRenderable

/-- The inline style of a batch is read back as the styles it renders exactly if no
value brings in a semicolon and no comment comes about in the whole. -/
theorem parse_inlineStyle_iff {batch : Batch} {styles : OrderedMap Text Text}
    (ran : inlineStyles batch = .ok styles) :
    inlineStyle batch = .ok (renderDeclarations styles) ∧
      (parseDeclarations (renderDeclarations styles) = styles ↔
        (∀ declaration ∈ styles, ';' ∉ declaration.2) ∧
          ¬ HasComment (renderDeclarations styles)) := by
  refine ⟨by rw [inlineStyle, ran]; rfl, ?_⟩
  exact parseDeclarations_renderDeclarations_iff (inlineStyles_spec ran).1
    (isRenderable_of_mem_styles ran)

/-- A semicolon in a value brings in a declaration of a property that is not allowed. -/
theorem parse_inlineStyle_iff_on_semicolon :
    inlineStyles (Batch.ofTexts [("font-family".toList, "a; x: y".toList)]) =
        .ok [("font-family".toList, "a; x: y".toList)] ∧
      parseDeclarations "font-family: a; x: y".toList ≠
        [("font-family".toList, "a; x: y".toList)] := by
  have ran : inlineStyles (Batch.ofTexts [("font-family".toList, "a; x: y".toList)]) =
      .ok [("font-family".toList, "a; x: y".toList)] := rfl
  refine ⟨ran, fun same => ?_⟩
  have separated := ((parse_inlineStyle_iff ran).2.mp same).1 _ List.mem_cons_self
  exact absurd separated (by decide)

/-- A declaration that the gate leaves as it is: its name is allowed, its value is in
normal form without breakout characters, and it is accepted. -/
structure IsSettled (declaration : Text × Text) : Prop where
  allowed : listed allowedProperties declaration.1 = true
  unbroken : ∀ c ∈ declaration.2, isBreakout c = false
  normal : sanitizeValue declaration.2 = declaration.2
  accepted : Accepts declaration

theorem IsSettled.survives {declaration : Text × Text} (settled : IsSettled declaration) :
    Survives (.text declaration.1, .text declaration.2) declaration := by
  rw [survives_text_iff settled.allowed, settled.normal]
  have judged := (accepts_iff_judge settled.allowed).mp settled.accepted
  rw [settled.normal] at judged
  exact ⟨rfl, judged⟩

theorem IsSettled.attributeValue_eq {declaration : Text × Text}
    (settled : IsSettled declaration) : attributeValue declaration.2 = declaration.2 :=
  attributeValue_eq_self settled.survives.trimmed settled.unbroken

theorem Survives.isSettled {entry : Scalar × Datum} {declaration : Text × Text}
    (survives : Survives entry declaration)
    (unbroken : ∀ c ∈ declaration.2, isBreakout c = false) : IsSettled declaration := by
  obtain ⟨text, _, value_eq⟩ := survives.admits.value_eq
  exact {
    allowed := survives.admits.allowed
    unbroken := unbroken
    normal := by rw [← value_eq, sanitizeValue_sanitizeValue]
    accepted := survives.accepts }

theorem foldl_setStyle_of_settled {entries : List (Text × Text)}
    (settled : ∀ entry ∈ entries, IsSettled entry) (styles : OrderedMap Text Text) :
    entries.foldl setStyle styles = OrderedMap.insertAll styles entries := by
  induction entries generalizing styles with
  | nil => rfl
  | cons entry entries ih =>
      obtain ⟨first, others⟩ := List.forall_mem_cons.mp settled
      have nonempty := first.survives.admits.text.1
      have step : setStyle styles entry = OrderedMap.insert entry.1 entry.2 styles := by
        simp [setStyle, first.attributeValue_eq, nonempty]
      rw [List.foldl_cons, step, ih others]
      rfl

theorem inlineStyles_of_settled {entries : OrderedMap Text Text}
    (distinct : OrderedMap.Distinct entries)
    (settled : ∀ entry ∈ entries, IsSettled entry) :
    inlineStyles (Batch.ofTexts entries) = .ok entries := by
  rw [inlineStyles_of_survivors fun entry member => (settled entry member).survives,
    foldl_setStyle_of_settled settled, ← OrderedMap.ofList, OrderedMap.ofList_eq_self distinct]

/-- Declarations that come back as their own styles are settled. -/
theorem settled_of_inlineStyles {entries : OrderedMap Text Text}
    (ran : inlineStyles (Batch.ofTexts entries) = .ok entries) :
    ∀ entry ∈ entries, IsSettled entry := by
  obtain ⟨distinct, all_stem⟩ := inlineStyles_spec ran
  intro declaration member
  have stems := all_stem declaration member
  obtain ⟨source, source_mem, value, survives, value_eq⟩ := stems.source
  obtain ⟨other, other_mem, rfl⟩ := List.mem_map.mp source_mem
  obtain ⟨same, _, _⟩ :=
    (survives_text_iff (all_stem other other_mem).allowed).mp survives
  obtain ⟨same_name, rfl⟩ := Prod.mk.inj same
  obtain rfl : declaration = other := distinct.eq_of_mem member other_mem same_name
  -- Breakout characters are gone already, so the attribute keeps the normal form.
  have unbroken : ∀ c ∈ sanitizeValue declaration.2, isBreakout c = false := by
    have solid : ∀ c, isBreakout c = true → Text.isBlank c = false :=
      forall_isBreakout_iff.mpr (by decide)
    intro c within
    refine Bool.eq_false_iff.mpr fun breakout => ?_
    have known := stems.unbroken c ((mem_sanitizeValue (solid c breakout)).mp within).1
    rw [breakout] at known
    exact absurd known (by decide)
  have normal : sanitizeValue declaration.2 = declaration.2 := by
    rw [attributeValue_eq_self (singleSpaced_sanitizeValue _).trim_eq unbroken] at value_eq
    exact value_eq.symm
  exact {
    allowed := stems.allowed
    unbroken := stems.unbroken
    normal := normal
    accepted := accepts_iff_survives.mpr ⟨_, survives⟩ }

theorem count_attributeValue_le (c : Char) (value : Text) :
    (attributeValue value).count c ≤ value.count c :=
  ((Text.trim_sublist _).trans List.filter_sublist).count_le c

theorem count_sanitizeValue_le {c : Char} (solid : Text.isBlank c = false)
    (value : Text) : (sanitizeValue value).count c ≤ value.count c := by
  rw [sanitizeValue, Text.count_collapse solid]
  exact List.filter_sublist.count_le c

theorem total_foldl_setStyle_le (passed : List (Text × Text))
    (styles : OrderedMap Text Text) :
    OrderedMap.total (List.count '/') (passed.foldl setStyle styles) ≤
      OrderedMap.total (List.count '/') styles +
        OrderedMap.total (List.count '/') passed := by
  induction passed generalizing styles with
  | nil => exact Nat.le_add_right _ _
  | cons added passed ih =>
      have later := ih (setStyle styles added)
      have kept := count_attributeValue_le '/' added.2
      have step : OrderedMap.total (List.count '/') (setStyle styles added) ≤
          OrderedMap.total (List.count '/') styles + (attributeValue added.2).count '/' := by
        unfold setStyle
        dsimp only
        split
        · exact Nat.le_add_right_of_le (OrderedMap.total_erase_le _ _ _)
        · exact OrderedMap.total_insert_le _ _ _ _
      have split : OrderedMap.total (List.count '/') (added :: passed) =
          added.2.count '/' + OrderedMap.total (List.count '/') passed := by
        simp [OrderedMap.total]
      rw [List.foldl_cons]
      omega

theorem total_passed_le {entries : List (Text × Text)} {passed : List (List (Text × Text))}
    (ran : (Batch.ofTexts entries).mapM passing = .ok passed) :
    OrderedMap.total (List.count '/') passed.flatten ≤
      OrderedMap.total (List.count '/') entries := by
  rw [Batch.mapM_eq_ok_iff, Batch.ofTexts, List.forall₂_map_left_iff] at ran
  induction ran with
  | nil => exact Nat.le_refl _
  | @cons entry survivors entries passed first _ ih =>
      have kept : OrderedMap.total (List.count '/') survivors ≤ entry.2.count '/' := by
        rcases passing_cases first with rfl | ⟨declaration, rfl, survives⟩
        · exact Nat.zero_le _
        · have bound := count_sanitizeValue_le (show Text.isBlank '/' = false by decide)
            entry.2
          rw [survives.sanitizeValue_eq] at bound
          simpa [OrderedMap.total] using bound
      simp only [OrderedMap.total, List.flatten_cons, List.map_append, List.sum_append,
        List.map_cons, List.sum_cons] at ih kept ⊢
      omega

/-- The styles of declarations that were read back from a text hold no slash of its
comments, and no semicolon. -/
theorem styles_of_parsed {text : Text} {styles : OrderedMap Text Text}
    (ran : inlineStyles (Batch.ofTexts (parseDeclarations text)) = .ok styles) :
    OrderedMap.total (List.count '/') styles ≤ (stripComments text).count '/' ∧
      ∀ declaration ∈ styles, ';' ∉ declaration.2 := by
  constructor
  · obtain ⟨passed, passed_eq, rfl⟩ := inlineStyles_eq_ok_iff.mp ran
    have added := total_foldl_setStyle_le passed.flatten []
    rw [show OrderedMap.total (List.count '/') ([] : List (Text × Text)) = 0 from rfl,
      Nat.zero_add] at added
    exact (added.trans (total_passed_le passed_eq)).trans (total_parseDeclarations_le text)
  · intro declaration member within
    obtain ⟨source, source_mem, value, survives, value_eq⟩ :=
      ((inlineStyles_spec ran).2 declaration member).source
    obtain ⟨entry, entry_mem, rfl⟩ := List.mem_map.mp source_mem
    have same : sanitizeValue entry.2 = value := survives.sanitizeValue_eq
    rw [value_eq] at within
    have kept := (mem_attributeValue within).1
    rw [← same] at kept
    exact (of_mem_parseDeclarations entry_mem).1 ((mem_sanitizeValue (by decide)).mp kept).1

/-- A value that goes through the gate and back: it has no breakout character, no
semicolon, and no opening of a comment. -/
structure IsPlain (value : Text) : Prop where
  unbroken : ∀ c ∈ value, isBreakout c = false
  separated : ';' ∉ value
  uncommented : ¬ ['/', '*'] <:+: value

/-- What survives of a plain value is settled and plain. -/
theorem Survives.of_isPlain {entry : Scalar × Datum} {declaration : Text × Text}
    (survives : Survives entry declaration)
    (plain : ∀ text, Batch.valueText? entry.2 = .ok (some text) → IsPlain text) :
    IsSettled declaration ∧ IsPlain declaration.2 := by
  obtain ⟨text, text_eq, value_eq⟩ := survives.admits.value_eq
  obtain ⟨unbroken, separated, uncommented⟩ := plain text text_eq
  have absent : nul ∉ text := fun byte => survives.safe (.inr ⟨text, text_eq, .inl byte⟩)
  have kept : IsPlain declaration.2 := by
    rw [← value_eq]
    refine ⟨fun c member => ?_, fun member => ?_, fun within => ?_⟩
    · cases blank : Text.isBlank c with
      | false => exact unbroken c ((mem_sanitizeValue blank).mp member).1
      | true =>
          rw [(singleSpaced_sanitizeValue text).eq_space c member blank]
          decide
    · exact separated ((mem_sanitizeValue (by decide)).mp member).1
    · rw [sanitizeValue_eq_collapse absent] at within
      have solid : ∀ c ∈ ['/', '*'], Text.isBlank c = false :=
        List.forall_mem_cons.mpr ⟨by decide, List.forall_mem_singleton.mpr (by decide)⟩
      exact uncommented (Text.infix_of_infix_collapse (by decide) solid within)
  exact ⟨survives.isSettled kept.unbroken, kept⟩

/-- No comment comes about between values that open none. -/
theorem not_hasComment_of_isPlain {entries : List (Text × Text)}
    (renderable : ∀ entry ∈ entries, IsRenderable entry)
    (plain : ∀ entry ∈ entries, IsPlain entry.2) :
    ¬ HasComment (renderDeclarations entries) := by
  intro present
  obtain ⟨found, found_mem, within⟩ := Text.exists_infix_of_infix_joinWith (by decide)
    (by decide) (by simp) present.isOpened
  obtain ⟨entry, member, rfl⟩ := List.mem_map.mp found_mem
  rw [List.append_assoc] at within
  rcases Text.infix_of_infix_append_append (by decide) (by simp) within with name | value
  · have slash : '/' ∈ entry.1 := name.subset (by decide)
    exact (renderable entry member).not_mem_name (by decide) slash
  · exact (plain entry member).uncommented value

/-- A text that comes back as the inline style of its own declarations has no comments,
so its declarations are the styles that render to it. -/
theorem styles_eq_of_inlineStyle_parsed {text : Text}
    (ran : inlineStyle (Batch.ofTexts (parseDeclarations text)) = .ok text) :
    inlineStyles (Batch.ofTexts (parseDeclarations text)) = .ok (parseDeclarations text) ∧
      renderDeclarations (parseDeclarations text) = text := by
  obtain ⟨styles, styles_eq, rendered⟩ := inlineStyle_eq_ok_iff.mp ran
  have renderable := isRenderable_of_mem_styles styles_eq
  obtain ⟨slashes, separated⟩ := styles_of_parsed styles_eq
  -- The styles were read from a text without its comments, yet render to all of it.
  have absent : ¬ HasComment (renderDeclarations styles) := by
    intro present
    have loses := count_stripComments_lt present
    rw [count_renderDeclarations renderable, rendered] at loses
    exact Nat.not_lt_of_le slashes loses
  have back := (parseDeclarations_renderDeclarations_iff (inlineStyles_spec styles_eq).1
    renderable).mpr ⟨separated, absent⟩
  rw [rendered] at back
  rw [back]
  exact ⟨back ▸ styles_eq, rendered⟩

theorem inlineStyle_of_settled {entries : OrderedMap Text Text}
    (distinct : OrderedMap.Distinct entries)
    (settled : ∀ entry ∈ entries, IsSettled entry) :
    inlineStyle (Batch.ofTexts entries) = .ok (renderDeclarations entries) :=
  inlineStyle_eq_ok_iff.mpr ⟨entries, inlineStyles_of_settled distinct settled, rfl⟩

/-- The styles of a batch of plain values are read back, and are settled. -/
theorem styles_of_isPlain {batch : Batch} {styles : OrderedMap Text Text}
    (ran : inlineStyles batch = .ok styles)
    (plain : ∀ entry ∈ batch, ∀ value, Batch.valueText? entry.2 = .ok (some value) →
      IsPlain value) :
    parseDeclarations (renderDeclarations styles) = styles ∧
      ∀ declaration ∈ styles, IsSettled declaration := by
  obtain ⟨distinct, stems⟩ := inlineStyles_spec ran
  have each : ∀ declaration ∈ styles, IsSettled declaration ∧ IsPlain declaration.2 := by
    intro declaration member
    obtain ⟨entry, entry_mem, value, survives, value_eq⟩ := (stems declaration member).source
    obtain ⟨settled, kept⟩ := survives.of_isPlain (plain entry entry_mem)
    have same : declaration = (declaration.1, value) :=
      Prod.ext rfl (value_eq.trans settled.attributeValue_eq)
    rw [same]
    exact ⟨settled, kept⟩
  have renderable := isRenderable_of_mem_styles ran
  refine ⟨?_, fun declaration member => (each declaration member).1⟩
  exact (parseDeclarations_renderDeclarations_iff distinct renderable).mpr
    ⟨fun declaration member => (each declaration member).2.separated,
      not_hasComment_of_isPlain renderable fun declaration member =>
        (each declaration member).2⟩

/-- An inline style is stable exactly if what is read back from it renders to it and is
settled.  The inline style of a batch of plain values always is. -/
theorem inlineStyle_stable_iff {batch : Batch} {text : Text}
    (ran : inlineStyle batch = .ok text) :
    (inlineStyle (Batch.ofTexts (parseDeclarations text)) = .ok text ↔
      renderDeclarations (parseDeclarations text) = text ∧
        ∀ declaration ∈ parseDeclarations text, IsSettled declaration) ∧
    ((∀ entry ∈ batch, ∀ value, Batch.valueText? entry.2 = .ok (some value) →
        IsPlain value) →
      inlineStyle (Batch.ofTexts (parseDeclarations text)) = .ok text) := by
  have distinct : OrderedMap.Distinct (parseDeclarations text) :=
    OrderedMap.distinct_ofList _
  refine ⟨⟨fun stable => ?_, ?_⟩, fun plain => ?_⟩
  · obtain ⟨styles_eq, rendered⟩ := styles_eq_of_inlineStyle_parsed stable
    exact ⟨rendered, settled_of_inlineStyles styles_eq⟩
  · rintro ⟨rendered, settled⟩
    rw [inlineStyle_of_settled distinct settled, rendered]
  · obtain ⟨styles, styles_eq, shape⟩ := Batch.bind_eq_ok_iff.mp ran
    obtain rfl : renderDeclarations styles = text := Except.ok.inj shape
    obtain ⟨back, settled⟩ := styles_of_isPlain styles_eq plain
    rw [back] at distinct ⊢
    exact inlineStyle_of_settled distinct settled

/-- Taking out quotation marks leaves two spaces, of which the next pass keeps one. -/
theorem inlineStyle_stable_iff_on_quotation :
    inlineStyle (Batch.ofTexts [("font-family".toList, "a \"\" b".toList)]) =
        .ok "font-family: a  b".toList ∧
      inlineStyle (Batch.ofTexts (parseDeclarations "font-family: a  b".toList)) ≠
        .ok "font-family: a  b".toList := by
  have ran : inlineStyle (Batch.ofTexts [("font-family".toList, "a \"\" b".toList)]) =
      .ok "font-family: a  b".toList := rfl
  refine ⟨ran, fun stable => ?_⟩
  have settled := ((inlineStyle_stable_iff ran).1.mp stable).2
    ("font-family".toList, "a  b".toList) (by decide)
  exact absurd settled.normal (by decide)

end Gate

end CssAudit
