import CssAudit.Stylesheet.Declarations
import CssAudit.Stylesheet.Selector

/-!
# Style rules

A style sheet is read flatly: a rule is a text before an opening brace together
with the text between that brace and a closing one.  The braces of blocks around
rules are passed over, so rules at any depth are found.
-/

namespace CssAudit

/-- A selector with its declarations.  Values carry no importance flag; the names
of the flagged declarations are kept beside them. -/
structure StyleRule where
  selector : Text
  declarations : OrderedMap Text Text
  important : List Text

namespace StyleRule

/-- The rule of a selector and declarations that may carry importance flags. -/
def ofDeclarations (selector : Text) (raw : List (Text × Text)) : StyleRule :=
  let flagged := raw.map fun entry => (entry.1, Stylesheet.splitImportant entry.2)
  { selector
    declarations := OrderedMap.ofList (flagged.map fun entry => (entry.1, entry.2.1))
    important := ((flagged.filter (·.2.2)).map (·.1)).eraseDups }

/-- The value of a property. -/
def get? (rule : StyleRule) (property : String) : Option Text :=
  OrderedMap.get? rule.declarations property.toList

/-- The value of a property in lower case, empty if it is not declared. -/
def lowered (rule : StyleRule) (property : String) : Text :=
  Text.lower (Text.trim ((rule.get? property).getD []))

/-- The selector, if it is not empty. -/
def selector? (rule : StyleRule) : Option Text :=
  if rule.selector.isEmpty then none else some rule.selector

end StyleRule

/-- The rules of a style sheet in order. -/
structure Stylesheet where
  rules : List StyleRule

namespace Stylesheet

def importantCount (sheet : Stylesheet) : Nat :=
  (sheet.rules.flatMap (·.important)).length

/-- The texts of a style sheet that end with a brace, each with that brace. -/
def chunks : Text → List (Text × Char)
  | [] => []
  | c :: rest =>
      if c = '{' || c = '}' then
        ([], c) :: chunks rest
      else
        match chunks rest with
        | [] => []
        | (text, brace) :: others => (c :: text, brace) :: others

/-- The innermost blocks: a text before an opening brace, and the text between
that brace and a closing one. -/
def blocks : List (Text × Char) → List (Text × Text)
  | first :: second :: others =>
      if first.2 = '{' && second.2 = '}' && !first.1.isEmpty then
        (first.1, second.1) :: blocks (second :: others)
      else
        blocks (second :: others)
  | _ => []

/-- The selector in front of a block: what follows the last statement. -/
def selectorBefore (text : Text) : Text :=
  Text.trim (Text.afterLast ';' (Text.trim text))

/-- The rule of a block, unless the block has no selector, is an at-rule or
declares nothing. -/
def rule? (block : Text × Text) : Option StyleRule :=
  let selector := selectorBefore block.1
  if selector.isEmpty || selector.head? = some '@' then
    none
  else
    let rule := StyleRule.ofDeclarations (Text.collapse selector)
      (declarationsOf block.2)
    if rule.declarations.isEmpty then none else some rule

def parse (source : Text) : Stylesheet :=
  ⟨(blocks (chunks (stripComments source))).filterMap rule?⟩

end Stylesheet

end CssAudit
