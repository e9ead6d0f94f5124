import CssAudit.Proofs.Stylesheet.Blocks
import CssAudit.Proofs.Stylesheet.Importance
import CssAudit.Proofs.Stylesheet.RoundTrip

/-!
# Style sheets as forests

A structured style sheet is a forest of rules, statements and at-rule blocks, the
blocks nested to any depth.  Its parts carry the conditions under which their texts
cannot be mistaken for one another.  A forest can be spelled with any blanks around
its parts; one such spelling is its rendering.
-/

namespace CssAudit

namespace Stylesheet

/-- A text without braces, separators and comments. -/
structure IsEnclosed (text : Text) : Prop where
  unbraced : Unbraced text
  unseparated : ';' ∉ text
  uncommented : ¬ OpensComment text

instance (text : Text) : Decidable (IsEnclosed text) :=
  decidable_of_iff (Unbraced text ∧ ';' ∉ text ∧ ¬ OpensComment text)
    ⟨fun ⟨first, second, third⟩ => ⟨first, second, third⟩,
      fun enclosed => ⟨enclosed.unbraced, enclosed.unseparated, enclosed.uncommented⟩⟩

/-- A declaration whose value is told apart from its importance flag. -/
structure SourceDeclaration where
  name : Text
  value : Text
  important : Bool
  renderable : IsRenderable (name, value)
  enclosed : IsEnclosed value
  unflagged : ¬ EndsImportant value

/-- A rule with a normalised selector and declarations of distinct names. -/
structure SourceRule where
  selector : Text
  declarations : List SourceDeclaration
  nonempty : selector ≠ []
  normalised : Text.collapse selector = selector
  plain : selector.head? ≠ some '@'
  enclosed : IsEnclosed selector
  distinct : (declarations.map (·.name)).Nodup

/-- The head of an at-rule block, after its sign. -/
structure Prelude where
  content : Text
  enclosed : IsEnclosed content

def Prelude.text (head : Prelude) : Text :=
  '@' :: head.content

/-- A statement such as an import, between its sign and its semicolon. -/
structure Statement where
  content : Text
  unbraced : Unbraced content
  uncommented : ¬ OpensComment content

def Statement.text (statement : Statement) : Text :=
  '@' :: (statement.content ++ [';'])

/-- The nodes of a style sheet in order, each before those that follow it. -/
inductive Forest where
  | nil
  | rule (rule : SourceRule) (rest : Forest)
  | statement (statement : Statement) (rest : Forest)
  | block (head : Prelude) (children rest : Forest)

/-- A rule as it is read, with the flagged names beside its declarations. -/
def SourceRule.styleRule (rule : SourceRule) : StyleRule where
  selector := rule.selector
  declarations := rule.declarations.map fun declaration => (declaration.name, declaration.value)
  important := (rule.declarations.filter (·.important)).map (·.name)

/-- The rules of a forest that declare something, in source order. -/
def Forest.rules : Forest → List StyleRule
  | .nil => []
  | .rule first rest =>
      if first.declarations.isEmpty then rest.rules else first.styleRule :: rest.rules
  | .statement _ rest => rest.rules
  | .block _ children rest => children.rules ++ rest.rules

/-- The texts of a value, with a flag behind it if its declaration is important. -/
inductive SpellsValue (declaration : SourceDeclaration) : Text → Prop
  | plain : declaration.important = false → SpellsValue declaration declaration.value
  | flagged {gap flag : Text} : declaration.important = true → Text.IsGap gap →
      IsImportantFlag flag → SpellsValue declaration (declaration.value ++ (gap ++ flag))

/-- The texts of a declaration block, a semicolon after each declaration. -/
inductive SpellsBody : List SourceDeclaration → Text → Prop
  | nil {gap : Text} : Text.IsGap gap → SpellsBody [] gap
  | cons {declaration : SourceDeclaration} {others : List SourceDeclaration}
      {name raw value body : Text} : Text.Pads declaration.name name →
      SpellsValue declaration raw → Text.Pads raw value → SpellsBody others body →
      SpellsBody (declaration :: others) (name ++ ':' :: (value ++ ';' :: body))

/-- The texts of a forest, with any blanks around its parts. -/
inductive Spells : Forest → Text → Prop
  | nil {gap : Text} : Text.IsGap gap → Spells .nil gap
  | rule {rule : SourceRule} {rest : Forest} {head body text : Text} :
      Text.Pads rule.selector head → SpellsBody rule.declarations body → Spells rest text →
      Spells (.rule rule rest) (head ++ '{' :: (body ++ '}' :: text))
  | statement {statement : Statement} {rest : Forest} {gap text : Text} :
      Text.IsGap gap → Spells rest text →
      Spells (.statement statement rest) (gap ++ (statement.text ++ text))
  | block {prelude : Prelude} {children rest : Forest} {head inside text : Text} :
      Text.Pads prelude.text head → Spells children inside → Spells rest text →
      Spells (.block prelude children rest) (head ++ '{' :: (inside ++ '}' :: text))

/-- The value of a declaration as it is rendered. -/
def SourceDeclaration.flaggedValue (declaration : SourceDeclaration) : Text :=
  if declaration.important then declaration.value ++ " !important".toList else declaration.value

def SourceDeclaration.render (declaration : SourceDeclaration) : Text :=
  declaration.name ++ ": ".toList ++ declaration.flaggedValue ++ [';']

/-- A declaration block on one line, a space after each declaration. -/
def renderBody : List SourceDeclaration → Text
  | [] => []
  | declaration :: others => declaration.render ++ ' ' :: renderBody others

/-- A forest with one line for each rule, statement and brace of a block. -/
def Forest.render : Forest → Text
  | .nil => []
  | .rule first rest =>
      first.selector ++ ' ' :: '{' :: ' ' ::
        (renderBody first.declarations ++ '}' :: '\n' :: rest.render)
  | .statement first rest => first.text ++ '\n' :: rest.render
  | .block head children rest =>
      head.text ++ ' ' :: '{' :: '\n' :: (children.render ++ '}' :: '\n' :: rest.render)

theorem Spells.gap_append {forest : Forest} {gap text : Text} (blank : Text.IsGap gap)
    (spells : Spells forest text) : Spells forest (gap ++ text) := by
  cases spells with
  | nil inner => exact .nil (blank.append inner)
  | rule head_pads body rest =>
      rw [← List.append_assoc]
      exact .rule (head_pads.gap_append blank) body rest
  | statement inner rest =>
      rw [← List.append_assoc]
      exact .statement (blank.append inner) rest
  | block head_pads children rest =>
      rw [← List.append_assoc]
      exact .block (head_pads.gap_append blank) children rest

theorem isImportantFlag_word : IsImportantFlag "!important".toList :=
  ⟨[], "important".toList, rfl, Text.isGap_nil, by decide⟩

theorem SourceDeclaration.spellsValue (declaration : SourceDeclaration) :
    SpellsValue declaration declaration.flaggedValue := by
  cases flagged : declaration.important with
  | false =>
      rw [flaggedValue, if_neg (by simp [flagged])]
      exact .plain flagged
  | true =>
      rw [flaggedValue, if_pos flagged]
      exact .flagged flagged Text.isGap_space isImportantFlag_word

theorem spellsBody_renderBody (declarations : List SourceDeclaration) :
    SpellsBody declarations (' ' :: renderBody declarations) := by
  induction declarations with
  | nil => exact .nil Text.isGap_space
  | cons declaration others ih =>
      have name_pads := (Text.pads_self declaration.name).gap_append Text.isGap_space
      have value_pads := (Text.pads_self declaration.flaggedValue).gap_append Text.isGap_space
      have spells := SpellsBody.cons name_pads declaration.spellsValue value_pads ih
      simpa [renderBody, SourceDeclaration.render] using spells

theorem spells_render (forest : Forest) : Spells forest forest.render := by
  have pads_space (text : Text) : Text.Pads text (text ++ [' ']) :=
    ⟨[], [' '], Text.isGap_nil, Text.isGap_space, rfl⟩
  have line_break : Text.IsGap ['\n'] := by decide
  induction forest with
  | nil => exact .nil Text.isGap_nil
  | rule first rest ih =>
      have spells := Spells.rule (pads_space first.selector)
        (spellsBody_renderBody first.declarations) (ih.gap_append line_break)
      simpa [Forest.render] using spells
  | statement first rest ih =>
      exact .statement Text.isGap_nil (ih.gap_append line_break)
  | block head children rest children_ih rest_ih =>
      have spells := Spells.block (pads_space head.text) (children_ih.gap_append line_break)
        (rest_ih.gap_append line_break)
      simpa [Forest.render] using spells

end Stylesheet

end CssAudit
