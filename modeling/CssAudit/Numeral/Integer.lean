import CssAudit.Text.Blank
import CssAudit.Text.Digit
import CssAudit.Text.Printable

/-!
# Reading and writing integers

An integer is read from decimal digits of any script, with an optional sign,
single underscores between digits and blanks around it.  Texts of more than
4300 digits are neither read nor written, which bounds the cost of a
conversion.
-/

namespace CssAudit

namespace Numeral

/-- The largest number of digits that is converted. -/
def digitLimit : Nat := 4300

/-- Why a conversion between integers and texts is refused. -/
inductive IntegerError where
  /-- The text is not an integer. -/
  | malformed (text : Text)
  /-- The text has more digits than the limit. -/
  | tooManyDigits (count : Nat)
  /-- The integer has more digits than the limit. -/
  | tooLong
  deriving DecidableEq, Repr

/-- How many characters of a quoted text a message about it shows. -/
def shownCharacters : Nat := 200

/-- The wording of a refused conversion. -/
def IntegerError.message : IntegerError → Text
  | .malformed text =>
      "invalid literal for int() with base 10: ".toList ++
        text.quoted.take shownCharacters
  | .tooManyDigits count =>
      "Exceeds the limit (4300 digits) for integer string conversion: value has ".toList ++
        Text.ofNat count ++
        " digits; use sys.set_int_max_str_digits() to increase the limit".toList
  | .tooLong =>
      ("Exceeds the limit (4300 digits) for integer string conversion; " ++
        "use sys.set_int_max_str_digits() to increase the limit").toList

/-- The blanks around an integer; the four information separators are none. -/
def isMargin (c : Char) : Bool :=
  Text.isBlank c && !(0x1C ≤ c.toNat && c.toNat ≤ 0x1F)

/-- The longest run of digits at the start of a text, with what follows it.
Underscores may stand between two digits; one that does not makes the text
malformed. -/
def digitRun (afterDigit : Bool) : Text → Option (List Nat × Text)
  | [] => if afterDigit then some ([], []) else none
  | c :: rest =>
      match Text.digitValue? c with
      | some digit =>
          (digitRun true rest).map fun run => (digit :: run.1, run.2)
      | none =>
          if !afterDigit then none
          else if c = '_' then digitRun false rest
          else some ([], c :: rest)

/-- The number that decimal digits denote. -/
def ofDigits (digits : List Nat) : Nat :=
  digits.foldl (fun value digit => 10 * value + digit) 0

/-- A sign at the start of a text: whether it is a minus, and what follows it. -/
def splitSign : Text → Bool × Text
  | '-' :: rest => (true, rest)
  | '+' :: rest => (false, rest)
  | rest => (false, rest)

/-- The integer that a text denotes. -/
def readInteger (text : Text) : Except IntegerError Int :=
  let (negative, body) := splitSign (text.dropWhile isMargin)
  match digitRun false body with
  | none => .error (.malformed text)
  | some (digits, rest) =>
      if digitLimit < digits.length then
        .error (.tooManyDigits digits.length)
      else if !rest.all isMargin then
        .error (.malformed text)
      else if negative then
        .ok (-(ofDigits digits))
      else
        .ok (ofDigits digits)

/-- The digits of an integer, with a minus sign in front of a negative one. -/
def integerText : Int → Text
  | .ofNat n => Text.ofNat n
  | .negSucc n => '-' :: Text.ofNat (n + 1)

/-- The text of an integer within the digit limit. -/
def writeInteger (n : Int) : Except IntegerError Text :=
  if n.natAbs < Nat.pow 10 digitLimit then .ok (integerText n) else .error .tooLong

end Numeral

end CssAudit
