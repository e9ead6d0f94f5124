import CssAudit.Text.CaseTable

/-!
# Letter case

Texts change case by the full mappings of the Unicode character database: some
characters become several, and a capital sigma becomes a final sigma at the end
of a word.

The grammars of values and of the style-sheet probes are written in lower-case
ASCII letters and matched in any case.  A character matches a letter if it folds
to it: the capital letter does, and so do the dotted capital i, the dotless i,
the long s and the Kelvin sign.
-/

namespace CssAudit

namespace Text

/-- The capital sigma, whose lower-case form depends on its place in the word. -/
def capitalSigma : Char := 'Σ'

/-- Whether a character is cased and not case-ignorable. -/
def isCased (c : Char) : Bool :=
  if c.toNat < 0x80 then c.isAlpha else casedRanges.contains c

/-- Whether a character does not separate a letter from its word. -/
def isCaseIgnorable (c : Char) : Bool :=
  caseIgnorableRanges.contains c

/-- The character that the run covering it leads to, or the character itself. -/
def shiftCase (runs : List CaseRun) (c : Char) : Char :=
  match runs.find? (·.covers c.toNat) with
  | some run => Char.ofNat (c.toNat + run.offset).toNat
  | none => c

/-- The lower-case form of a character outside the end of a word. -/
def lowerChar (c : Char) : Text :=
  if c.toNat < 0x80 then [c.toLower]
  else if c = 'İ' then ['i', '\u0307']
  else [shiftCase lowerRuns c]

def upperChar (c : Char) : Text :=
  if c.toNat < 0x80 then [c.toUpper]
  else
    match upperExpansions.lookup c.toNat with
    | some codes => codes.map Char.ofNat
    | none => [shiftCase upperRuns c]

/-- Whether the first character that is not case-ignorable is cased. -/
def startsCased (text : Text) : Bool :=
  (text.dropWhile isCaseIgnorable).head?.any isCased

/-- The lower-case form of a text that stands after a cased letter or not. -/
def lowerAfter (afterCased : Bool) : Text → Text
  | [] => []
  | c :: rest =>
      let image :=
        if c = capitalSigma then
          if afterCased && !startsCased rest then ['ς'] else ['σ']
        else
          lowerChar c
      image ++ lowerAfter (if isCaseIgnorable c then afterCased else isCased c) rest

def lower (text : Text) : Text :=
  lowerAfter false text

def upper (text : Text) : Text :=
  text.flatMap upperChar

/-- The character of the grammars that a character stands for. -/
def fold (c : Char) : Char :=
  if c = 'İ' || c = 'ı' then 'i'
  else if c = 'ſ' then 's'
  else if c = '\u212A' then 'k'
  else c.toLower

/-- What follows a lower-case `pattern` at the start of a text, in any case. -/
def dropFolded? : Text → Text → Option Text
  | [], rest => some rest
  | _ :: _, [] => none
  | expected :: pattern, c :: rest =>
      if expected = fold c then dropFolded? pattern rest else none

/-- Whether a character folds to a letter from a to z. -/
def isFoldedLetter (c : Char) : Bool :=
  (fold c).isLower

end Text

end CssAudit
