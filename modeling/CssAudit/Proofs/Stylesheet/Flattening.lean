import CssAudit.Proofs.Stylesheet.Forest

/-!
# Forests are read flatly

The rules of a text of a forest are the rules of the forest that declare something, in
source order.  There is no stack in the reading: it starts anew after each brace, and
what carries it through the tree is that only statements and blanks are pending where a
node begins.
-/

namespace CssAudit

namespace Stylesheet

section Value

variable {declaration : SourceDeclaration} {raw : Text} (spells : SpellsValue declaration raw)
include spells

theorem SpellsValue.isEnclosed : IsEnclosed raw := by
  have enclosed := declaration.enclosed
  cases spells with
  | plain => exact enclosed
  | @flagged gap flag flagged blank important =>
      have absent {c : Char} (solid : Text.isBlank c = false) (unmarked : c ≠ '!')
          (foreign : Text.fold c ∉ "important".toList) (outside : c ∉ declaration.value) :
          c ∉ declaration.value ++ (gap ++ flag) := by
        simp [outside, blank.not_mem solid, important.not_mem solid unmarked foreign]
      refine ⟨⟨?_, ?_⟩, ?_, ?_⟩
      · exact absent (by decide) (by decide) (by decide) enclosed.unbraced.1
      · exact absent (by decide) (by decide) (by decide) enclosed.unbraced.2
      · exact absent (by decide) (by decide) (by decide) enclosed.unseparated
      · have slashless : '/' ∉ flag := important.not_mem (by decide) (by decide) (by decide)
        obtain ⟨rest, rfl⟩ := important.starts
        rw [List.mem_cons, not_or] at slashless
        rw [← List.append_assoc]
        exact not_opensComment_append_cons (by decide)
          (not_opensComment_append_gap blank enclosed.uncommented)
          (not_opensComment_of_not_mem slashless.2)

theorem SpellsValue.isRenderable : IsRenderable (declaration.name, raw) := by
  obtain ⟨name_nonempty, name_chars, value_nonempty, trimmed⟩ := declaration.renderable
  cases spells with
  | plain => exact declaration.renderable
  | @flagged gap flag flagged blank important =>
      refine ⟨name_nonempty, name_chars, ?_, Text.trim_eq_self ?_ ?_⟩
      · simp [value_nonempty]
      · intro c first
        rw [List.head?_append_of_ne_nil _ value_nonempty, ← trimmed] at first
        exact Text.head?_trim c first
      · intro c last
        obtain ⟨rest, shape⟩ := important.starts
        rw [← List.append_assoc, List.getLast?_append_of_ne_nil _ (by simp [shape])] at last
        exact important.ends c last

theorem SpellsValue.splitImportant_eq :
    splitImportant raw = (declaration.value, declaration.important) := by
  have trimmed : Text.trim declaration.value = declaration.value :=
    declaration.renderable.trimmed
  cases spells with
  | plain unflagged =>
      rw [splitImportant_of_not_endsImportant declaration.unflagged, trimmed, unflagged]
  | flagged flagged blank important =>
      rw [← List.append_assoc, splitImportant_append important, blank.trim_after, trimmed, flagged]

end Value

theorem declarationsOf_of_isGap {gap : Text} (blank : Text.IsGap gap) :
    declarationsOf gap = [] := by
  rw [declarationsOf, Text.splitOn_eq_singleton (blank.not_mem (by decide))]
  have uncut : Text.cutAt ':' gap = none := by
    refine Option.eq_none_iff_forall_ne_some.mpr fun parts cut => ?_
    rw [(Text.cutAt_eq_some_iff.mp cut).1] at blank
    exact absurd (blank ':' (by simp)) (by decide)
  simp [declaration?, uncut]

section Body

variable {declarations : List SourceDeclaration} {body : Text}
  (spells : SpellsBody declarations body)
include spells

theorem SpellsBody.unbraced : Unbraced body := by
  induction spells with
  | nil blank => exact unbraced_of_isGap blank
  | @cons declaration others name raw value body name_pads value_spells value_pads _ ih =>
      have name_unbraced : Unbraced declaration.name :=
        ⟨declaration.renderable.not_mem_name (by decide),
          declaration.renderable.not_mem_name (by decide)⟩
      have before := unbraced_of_pads name_pads name_unbraced
      have between := unbraced_of_pads value_pads value_spells.isEnclosed.unbraced
      have shape : name ++ ':' :: (value ++ ';' :: body) =
          (name ++ [':']) ++ ((value ++ [';']) ++ body) := by simp
      rw [shape]
      exact (before.append (by decide)).append ((between.append (by decide)).append ih)

theorem SpellsBody.not_opensComment : ¬ OpensComment body := by
  induction spells with
  | nil blank => exact not_opensComment_of_not_mem (blank.not_mem (by decide))
  | @cons declaration others name raw value body name_pads value_spells value_pads _ ih =>
      have name_uncommented : ¬ OpensComment declaration.name :=
        not_opensComment_of_not_mem (declaration.renderable.not_mem_name (by decide))
      exact not_opensComment_append_cons (by decide)
        (not_opensComment_of_pads name_pads name_uncommented)
        (not_opensComment_append_cons (by decide)
          (not_opensComment_of_pads value_pads value_spells.isEnclosed.uncommented) ih)

theorem SpellsBody.declarationsOf_eq :
    (declarationsOf body).map (fun entry => (entry.1, splitImportant entry.2)) =
      declarations.map fun declaration =>
        (declaration.name, declaration.value, declaration.important) := by
  induction spells with
  | nil blank => simp [declarationsOf_of_isGap blank]
  | @cons declaration others name raw value body name_pads value_spells value_pads _ ih =>
      have renderable := value_spells.isRenderable
      have unseparated : ';' ∉ name ++ ':' :: value := by
        have name_free : ';' ∉ name := by
          rw [name_pads.mem_iff (by decide)]
          exact renderable.not_mem_name (by decide)
        have value_free : ';' ∉ value := by
          rw [value_pads.mem_iff (by decide)]
          exact value_spells.isEnclosed.unseparated
        simp [name_free, value_free]
      have shape : name ++ ':' :: (value ++ ';' :: body) =
          (name ++ ':' :: value) ++ ';' :: body := by simp
      have first : declarationsOf (name ++ ':' :: value) = [(declaration.name, raw)] := by
        rw [declarationsOf, Text.splitOn_eq_singleton unseparated]
        simp [renderable.declaration?_of_pads name_pads value_pads]
      rw [shape, declarationsOf_append, first, List.map_append, ih]
      simp [value_spells.splitImportant_eq]

end Body

theorem eraseDups_of_nodup {names : List Text} (distinct : names.Nodup) :
    names.eraseDups = names := by
  induction names with
  | nil => rfl
  | cons name names ih =>
      obtain ⟨absent, others⟩ := List.nodup_cons.mp distinct
      have kept : names.filter (fun other => !other == name) = names := by
        rw [List.filter_eq_self]
        intro other member
        have different : other ≠ name := fun same => absent (same ▸ member)
        simpa using different
      rw [List.eraseDups_cons, kept, ih others]

section Rule

variable {rule : SourceRule} {body : Text} (spells : SpellsBody rule.declarations body)
include spells

theorem SpellsBody.ofDeclarations_eq :
    StyleRule.ofDeclarations rule.selector (declarationsOf body) = rule.styleRule := by
  have names : OrderedMap.Distinct (rule.declarations.map fun declaration =>
      (declaration.name, declaration.value)) := by
    simpa [OrderedMap.Distinct, List.map_map, Function.comp_def] using rule.distinct
  have flagged : ((rule.declarations.filter (·.important)).map (·.name)).Nodup :=
    rule.distinct.sublist (List.filter_sublist.map _)
  simp only [StyleRule.ofDeclarations, spells.declarationsOf_eq, List.map_map,
    Function.comp_def, List.filter_map, OrderedMap.ofList_eq_self names,
    eraseDups_of_nodup flagged, SourceRule.styleRule]

theorem SpellsBody.rule?_eq {before head : Text} (idle : Idle before)
    (head_pads : Text.Pads rule.selector head) :
    rule? (before ++ head, body) =
      if rule.declarations.isEmpty then none else some rule.styleRule := by
  have unseparated : ';' ∉ head := by
    rw [head_pads.mem_iff (by decide)]
    exact rule.enclosed.unseparated
  have found : selectorBefore (before ++ head) = rule.selector := by
    rw [idle.selectorBefore_append unseparated, head_pads.trim_eq,
      Text.trim_eq_self_of_collapse rule.normalised]
  rw [rule?_of_selector found rule.nonempty rule.plain, rule.normalised,
    spells.ofDeclarations_eq]
  simp [SourceRule.styleRule]

end Rule

theorem Prelude.isEnclosed (prelude : Prelude) : IsEnclosed prelude.text where
  unbraced := (show Unbraced ['@'] by decide).append prelude.enclosed.unbraced
  unseparated := by simp [Prelude.text, prelude.enclosed.unseparated]
  uncommented := by
    have none : ¬ OpensComment [] := by decide
    exact not_opensComment_append_cons (by decide) none prelude.enclosed.uncommented

theorem Prelude.head?_trim (prelude : Prelude) :
    (Text.trim prelude.text).head? = some '@' := by
  have solid : Text.isBlank '@' = false := by decide
  have started : Text.trimStart prelude.text = prelude.text :=
    Text.trimStart_eq_self (by rintro c ⟨⟩; exact solid)
  have starts : Text.trim prelude.text <+: prelude.text := by
    have cut := Text.trimEnd_prefix (Text.trimStart prelude.text)
    rwa [started] at cut
  have kept : '@' ∈ Text.trim prelude.text := by
    rw [Text.mem_trim solid]
    exact List.mem_cons_self
  obtain ⟨c, rest, shape⟩ := List.exists_cons_of_ne_nil (List.ne_nil_of_mem kept)
  rw [shape] at starts ⊢
  rw [(List.cons_prefix_cons.mp starts).1]
  rfl

theorem Prelude.rule?_eq {prelude : Prelude} {before head : Text}
    (head_pads : Text.Pads prelude.text head) (idle : Idle before) (body : Text) :
    rule? (before ++ head, body) = none := by
  have unseparated : ';' ∉ head := by
    rw [head_pads.mem_iff (by decide)]
    exact prelude.isEnclosed.unseparated
  refine rule?_of_at ?_ body
  rw [idle.selectorBefore_append unseparated, head_pads.trim_eq, prelude.head?_trim]

theorem Idle.append_statement {before gap : Text} (idle : Idle before) (blank : Text.IsGap gap)
    (statement : Statement) : Idle (before ++ (gap ++ statement.text)) := by
  have unbraced : Unbraced (before ++ (gap ++ '@' :: statement.content)) :=
    idle.unbraced.append ((unbraced_of_isGap blank).append
      ((show Unbraced ['@'] by decide).append statement.unbraced))
  have shape : before ++ (gap ++ statement.text) =
      (before ++ (gap ++ '@' :: statement.content)) ++ [';'] := by simp [Statement.text]
  rw [shape]
  exact idle_statement unbraced

/-- The rules of the text of a forest, wherever it stands: after statements and blanks,
and before the end or the brace that closes the block around it. -/
theorem Spells.rulesIn_eq {forest : Forest} {text : Text} (spells : Spells forest text)
    {before after : Text} (idle : Idle before)
    (closes : after = [] ∨ ∃ rest, after = '}' :: rest) :
    rulesIn (before ++ (text ++ after)) = forest.rules ++ rulesIn after := by
  -- Below a block both hypotheses start anew: nothing is pending behind its opening
  -- brace, and its closing brace follows the children.
  induction spells generalizing before after with
  | @nil gap blank =>
      have unbraced := idle.unbraced.append (unbraced_of_isGap blank)
      rw [← List.append_assoc, Forest.rules, List.nil_append]
      rcases closes with rfl | ⟨rest, rfl⟩
      · rw [List.append_nil, rulesIn_of_unbraced unbraced]
        rfl
      · have alone : rulesIn ('}' :: rest) = rulesIn rest :=
          rulesIn_closing idle_nil.unbraced rest
        rw [rulesIn_closing unbraced, alone]
  | @rule rule rest head body text head_pads body_spells _ ih =>
      have head_unbraced := unbraced_of_pads head_pads rule.enclosed.unbraced
      have nonempty : before ++ head ≠ [] := by
        obtain ⟨first, last, -, -, rfl⟩ := head_pads
        simp [rule.nonempty]
      have later : rulesIn (text ++ after) = rest.rules ++ rulesIn after := ih idle_nil closes
      have shape : before ++ ((head ++ '{' :: (body ++ '}' :: text)) ++ after) =
          (before ++ head) ++ '{' :: (body ++ '}' :: (text ++ after)) := by simp
      rw [shape, rulesIn_block nonempty (idle.unbraced.append head_unbraced)
        body_spells.unbraced, body_spells.rule?_eq idle head_pads, later, Forest.rules]
      split <;> simp
  | @statement statement rest gap text blank _ ih =>
      have shape : before ++ ((gap ++ (statement.text ++ text)) ++ after) =
          (before ++ (gap ++ statement.text)) ++ (text ++ after) := by simp
      rw [shape, ih (idle.append_statement blank statement) closes, Forest.rules]
  | @block prelude children rest head inside text head_pads _ _ children_ih rest_ih =>
      have head_unbraced := unbraced_of_pads head_pads prelude.isEnclosed.unbraced
      have closing : rulesIn ('}' :: (text ++ after)) = rulesIn (text ++ after) :=
        rulesIn_closing idle_nil.unbraced (text ++ after)
      have inner : rulesIn (inside ++ '}' :: (text ++ after)) =
          children.rules ++ rulesIn ('}' :: (text ++ after)) :=
        children_ih idle_nil (.inr ⟨text ++ after, rfl⟩)
      have later : rulesIn (text ++ after) = rest.rules ++ rulesIn after :=
        rest_ih idle_nil closes
      have shape : before ++ ((head ++ '{' :: (inside ++ '}' :: text)) ++ after) =
          (before ++ head) ++ '{' :: (inside ++ '}' :: (text ++ after)) := by simp
      rw [shape, rulesIn_refused (idle.unbraced.append head_unbraced)
        (Prelude.rule?_eq head_pads idle), inner, closing, later, Forest.rules,
        List.append_assoc]

theorem Spells.not_opensComment {forest : Forest} {text : Text} (spells : Spells forest text) :
    ¬ OpensComment text := by
  have outside : '}' ∉ ['/', '*'] ∧ '{' ∉ ['/', '*'] ∧ ';' ∉ ['/', '*'] := by decide
  induction spells with
  | nil blank => exact not_opensComment_of_not_mem (blank.not_mem (by decide))
  | @rule rule rest head body text head_pads body_spells _ ih =>
      have first := not_opensComment_of_pads head_pads rule.enclosed.uncommented
      exact not_opensComment_append_cons outside.2.1 first
        (not_opensComment_append_cons outside.1 body_spells.not_opensComment ih)
  | @statement statement rest gap text blank _ ih =>
      have shape : gap ++ (statement.text ++ text) =
          (gap ++ '@' :: statement.content) ++ ';' :: text := by simp [Statement.text]
      rw [shape]
      exact not_opensComment_append_cons outside.2.2
        (not_opensComment_append_cons (by decide)
          (not_opensComment_of_not_mem (blank.not_mem (by decide))) statement.uncommented) ih
  | @block prelude children rest head inside text head_pads _ _ children_ih rest_ih =>
      have first := not_opensComment_of_pads head_pads prelude.isEnclosed.uncommented
      exact not_opensComment_append_cons outside.2.1 first
        (not_opensComment_append_cons outside.1 children_ih rest_ih)

/-- A forest is read from any of its texts: the rules that declare something, in source
order, with their selectors, declarations and flagged names. -/
theorem parse_of_spells {forest : Forest} {text : Text} (spells : Spells forest text) :
    (parse text).rules = forest.rules := by
  have whole : rulesIn (text ++ []) = forest.rules ++ rulesIn [] :=
    spells.rulesIn_eq idle_nil (.inl rfl)
  have empty : rulesIn [] = [] := rulesIn_of_unbraced idle_nil.unbraced
  rw [parse_rules, stripComments_eq_self spells.not_opensComment, ← List.append_nil text, whole,
    empty, List.append_nil]

/-- Statements, an empty block and a rule that declares nothing leave one rule of a
media block. -/
theorem parse_of_spells_on_nested_blocks :
    ∃ (forest : Forest) (text : Text), Spells forest text ∧
      text = ("@import x;\n@media print \x7b\n@layer y;\n" ++
        "a > b \x7b color: red; top: 0 !important; \x7d\n" ++
        "@supports z \x7b\n\x7d\n\x7d\np \x7b \x7d\n").toList ∧
      (parse text).rules = [{
        selector := "a > b".toList
        declarations := [("color".toList, "red".toList), ("top".toList, "0".toList)]
        important := ["top".toList] }] := by
  have renderable {name value : Text} (named : name ≠ [] ∧ name.all Gate.isNameChar = true)
      (filled : value ≠ [] ∧ Text.trim value = value) : IsRenderable (name, value) :=
    ⟨named.1, List.all_eq_true.mp named.2, filled.1, filled.2⟩
  have distinct : ["color".toList, "top".toList].Nodup := by decide
  let color : SourceDeclaration := ⟨"color".toList, "red".toList, false,
    renderable (by decide) (by decide), by decide, by decide⟩
  let top : SourceDeclaration := ⟨"top".toList, "0".toList, true,
    renderable (by decide) (by decide), by decide, by decide⟩
  let inner : SourceRule := ⟨"a > b".toList, [color, top],
    by decide, by decide, by decide, by decide, distinct⟩
  let bare : SourceRule := ⟨"p".toList, [], by decide, by decide, by decide, by decide, by decide⟩
  let children : Forest := .statement ⟨"layer y".toList, by decide, by decide⟩
    (.rule inner (.block ⟨"supports z".toList, by decide⟩ .nil .nil))
  let forest : Forest := .statement ⟨"import x".toList, by decide, by decide⟩
    (.block ⟨"media print".toList, by decide⟩ children (.rule bare .nil))
  exact ⟨forest, forest.render, spells_render forest, rfl, parse_of_spells (spells_render forest)⟩

end Stylesheet

end CssAudit
