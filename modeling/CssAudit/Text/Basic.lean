/-!
# Text as a list of characters

Style sheets, declaration values and messages are lists of characters, so that
every operation on them is a recursion on the list.  This file holds the
operations that know nothing about character classes: searching, cutting and
splitting at a separator, and joining.  A class beyond ASCII is a list of closed
ranges of code points.
-/

namespace CssAudit

/-- A text is the list of its characters. -/
abbrev Text := List Char

namespace Text

/-- What follows `pattern` at the start of a text, if the text starts with it. -/
def dropPrefix? : Text → Text → Option Text
  | [], rest => some rest
  | _ :: _, [] => none
  | expected :: pattern, c :: rest =>
      if expected = c then dropPrefix? pattern rest else none

/-- Whether a test holds of the text or of one of the texts it ends with. -/
def anywhere (test : Text → Bool) : Text → Bool
  | [] => test []
  | c :: rest => test (c :: rest) || anywhere test rest

def occursIn (pattern text : Text) : Bool :=
  anywhere (fun suffix => pattern.isPrefixOf suffix) text

/-- The pieces of a text between the occurrences of a separator. -/
def splitOn (separator : Char) : Text → List Text
  | [] => [[]]
  | c :: rest =>
      if c = separator then
        [] :: splitOn separator rest
      else
        match splitOn separator rest with
        | [] => [[c]]
        | piece :: pieces => (c :: piece) :: pieces

/-- The parts of a text before and after the first separator. -/
def cutAt (separator : Char) : Text → Option (Text × Text)
  | [] => none
  | c :: rest =>
      if c = separator then
        some ([], rest)
      else
        (cutAt separator rest).map fun parts => (c :: parts.1, parts.2)

/-- The part of a text after its last separator; all of it if there is none. -/
def afterLast (separator : Char) (text : Text) : Text :=
  (text.reverse.takeWhile (· ≠ separator)).reverse

/-- The texts one after another, with `separator` between neighbours. -/
def joinWith (separator : Text) : List Text → Text
  | [] => []
  | [text] => text
  | text :: next :: texts =>
      text ++ separator ++ joinWith separator (next :: texts)

/-- The number of bytes of a text in UTF-8. -/
def byteCount : Text → Nat
  | [] => 0
  | c :: rest => c.utf8Size + byteCount rest

/-- The decimal digits of a natural number. -/
def ofNat (n : Nat) : Text :=
  Nat.toDigits 10 n

/-- Closed ranges of code points. -/
abbrev Ranges := List (Nat × Nat)

/-- Whether a code point lies in one of the ranges. -/
def Ranges.contains (ranges : Ranges) (c : Char) : Bool :=
  ranges.any fun range => range.1 ≤ c.toNat && c.toNat ≤ range.2

end Text

end CssAudit
