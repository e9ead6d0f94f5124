import CssAudit.Text.Blank
import CssAudit.Text.Case

/-!
# Tokens of values

The top-level tokens of a value are separated by blanks that stand outside
parentheses and quotation marks.  A closing parenthesis without an opening one
closes nothing, and a quotation that is not closed runs to the end.

A URL is called by its name in any case, blanks, and an opening parenthesis.
-/

namespace CssAudit

namespace Value

/-- What is open at a place of a value. -/
structure Nesting where
  depth : Nat := 0
  quote : Option Char := none
  deriving DecidableEq, Repr

namespace Nesting

/-- What is open after one more character. -/
def advance (nesting : Nesting) (c : Char) : Nesting :=
  match nesting.quote with
  | some mark => if c = mark then { nesting with quote := none } else nesting
  | none =>
      if c = '"' || c = '\'' then { nesting with quote := some c }
      else if c = '(' then { nesting with depth := nesting.depth + 1 }
      else if c = ')' then { nesting with depth := nesting.depth - 1 }
      else nesting

/-- Whether a character separates tokens. -/
def separates (nesting : Nesting) (c : Char) : Bool :=
  nesting.quote.isNone && nesting.depth == 0 && Text.isBlank c

end Nesting

/-- A text in front of tokens, which is a token if it is not empty. -/
def consToken (token : Text) (tokens : List Text) : List Text :=
  if token.isEmpty then tokens else token :: tokens

/-- The rest of the current token and the tokens after it. -/
def splitFrom (nesting : Nesting) : Text → Text × List Text
  | [] => ([], [])
  | c :: rest =>
      if nesting.separates c then
        let next := splitFrom nesting rest
        ([], consToken next.1 next.2)
      else
        let next := splitFrom (nesting.advance c) rest
        (c :: next.1, next.2)

/-- The tokens of a value. -/
def splitTopLevel (text : Text) : List Text :=
  let split := splitFrom {} text
  consToken split.1 split.2

/-- Whether a text starts with a call of a URL. -/
def startsUrl (text : Text) : Bool :=
  match Text.dropFolded? "url".toList text with
  | some rest => (Text.trimStart rest).head? = some '('
  | none => false

/-- Whether a text calls a URL anywhere. -/
def mentionsUrl (text : Text) : Bool :=
  Text.anywhere startsUrl text

end Value

end CssAudit
