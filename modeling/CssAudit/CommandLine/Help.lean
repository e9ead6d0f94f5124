import CssAudit.CommandLine.Arguments
import CssAudit.Text.Blank

/-!
# Help pages

A help page shows how a command is used, describes it, and lists its options in
two columns.  Descriptions are filled into lines of words.
-/

namespace CssAudit

namespace CommandLine

/-- An option with what its help says. -/
structure CommandOption where
  /-- The name, and the name that turns the option off if there is one. -/
  names : List String
  /-- The word for its value, if it takes one. -/
  value : Option Text := none
  purpose : String

namespace CommandOption

def flags (option : CommandOption) : List Flag :=
  option.names.map fun name => ⟨name, option.value.isSome⟩

/-- The entry of the option among the options of a help page. -/
def entry (option : CommandOption) : Text × Text :=
  (Text.joinWith " / ".toList (option.names.map String.toList) ++
    ((option.value.map fun word => ' ' :: word).getD []), option.purpose.toList)

end CommandOption

/-- The word for a value that is one of several. -/
def choiceWord (choices : List String) : Text :=
  '[' :: Text.joinWith ['|'] (choices.map String.toList) ++ [']']

/-- The option that every command has. -/
def helpOption : CommandOption :=
  { names := ["--help"], purpose := "Show this message and exit." }

/-- A line and the lines after it, once words are added to it.  A word that does not fit
into its width begins the next line. -/
def fillFrom (width : Nat) (line : Text) : List Text → List Text
  | [] => [line]
  | word :: rest =>
      if line.length + 1 + word.length ≤ width then
        fillFrom width (line ++ ' ' :: word) rest
      else
        line :: fillFrom width word rest

/-- The words of a text in lines of a width. -/
def fill (width : Nat) (text : Text) : List Text :=
  match Text.words text with
  | [] => []
  | word :: rest => fillFrom width word rest

/-- Lines after a margin, which is blank from the second line on. -/
def beside (margin : Text) : List Text → List Text
  | [] => [margin]
  | first :: rest =>
      (margin ++ first) :: rest.map fun line => List.replicate margin.length ' ' ++ line

def pageWidth : Nat := 78

/-- The lines of an entry, whose term stands in a column of a width with two blanks on
either side or, if it is too long for that, on a line of its own. -/
def entryLines (column : Nat) (entry : Text × Text) : List Text :=
  let lines := fill (pageWidth - column - 4) entry.2
  if entry.1.length ≤ column then
    beside ("  ".toList ++ entry.1.rightpad (column + 2) ' ') lines
  else
    ("  ".toList ++ entry.1) :: beside (List.replicate (column + 4) ' ') lines

def longest (texts : List Text) : Nat :=
  (texts.map List.length).foldl max 0

/-- The lines of a section of a help page, whose column is as wide as its terms, but not
beyond thirty. -/
def sectionLines (title : String) (entries : List (Text × Text)) : List Text :=
  let column := min (longest (entries.map (·.1))) 30
  [] :: (title.toList ++ [':']) :: entries.flatMap (entryLines column)

/-- The lines of a help page above its sections. -/
def headLines (usage : Text) (description : List String) : List Text :=
  ("Usage: ".toList ++ usage) ::
    description.flatMap fun paragraph =>
      [] :: beside "  ".toList (fill (pageWidth - 2) paragraph.toList)

/-- The words up to the first one that ends a sentence. -/
def firstSentence : List Text → List Text
  | [] => []
  | word :: rest =>
      if word.getLast? = some '.' then [word] else word :: firstSentence rest

/-- The first sentence of a text, or as much of it as a width has room for. -/
def summarize (width : Nat) (text : Text) : Text :=
  let sentence := Text.joinWith [' '] (firstSentence (Text.words text))
  if sentence.length ≤ width then sentence
  else (fill (width - 3) sentence).headD [] ++ "...".toList

end CommandLine

end CssAudit
