import CssAudit.Text.Blank
import CssAudit.Text.Case

/-!
# Selectors

A selector is kept as text.  The rules ask three questions of it: whether it
targets focused elements, whether it targets links, and whether one of its
members is global.
-/

namespace CssAudit

namespace Selector

/-- Whether a selector targets focused elements. -/
def targetsFocus (selector : Text) : Bool :=
  Text.occursIn ":focus".toList selector.lower

/-- Whether an element name may begin after a character. -/
def beginsName (c : Char) : Bool :=
  Text.isBlank c || c = '>' || c = '+' || c = '~' || c = ','

/-- Whether an element name ends before a text. -/
def endsName (rest : Text) : Bool :=
  rest.head?.all fun c =>
    beginsName c || c = ':' || c = '.' || c = '[' || c = '#'

/-- Whether a text holds the element name of a link, when an element name may
begin with its first character or not. -/
def hasAnchor (mayBegin : Bool) : Text → Bool
  | [] => false
  | c :: rest =>
      (mayBegin && c = 'a' && endsName rest) || hasAnchor (beginsName c) rest

def targetsLink (selector : Text) : Bool :=
  hasAnchor true selector.lower || Text.occursIn "link".toList selector.lower

/-- The selectors of whole documents. -/
def globals : List String :=
  ["*", "html", "body", ":root"]

/-- Whether a member of a selector list is global. -/
def isGlobal (selector : Text) : Bool :=
  (Text.splitOn ',' selector).any fun member =>
    globals.any fun name => name.toList == (Text.trim member).lower

end Selector

end CssAudit
