import CssAudit.Datum

/-!
# Reading JSON

A document is one value with blanks around it.  `NaN` and the infinities are
read as numbers, a key that occurs twice keeps its first place and its last
value, and an integer of too many digits is an error of its own.  A text that
is no document at all is malformed, wherever it goes wrong.
-/

namespace CssAudit

namespace Json

/-- Why a text is refused as a JSON document. -/
inductive ReadError where
  /-- The text is not a JSON document. -/
  | malformed
  /-- An integer of the document cannot be converted. -/
  | integer (cause : Numeral.IntegerError)
  deriving DecidableEq, Repr

/-- The four characters that may stand around values. -/
def isSpace (c : Char) : Bool :=
  c = ' ' || c = '\t' || c = '\n' || c = '\r'

/-- A text without the spaces at its start. -/
def skipSpaces (text : Text) : Text :=
  text.dropWhile isSpace

/-- The sixteen-bit unit that four hexadecimal digits denote. -/
def unit? : Text → Option (Nat × Text)
  | a :: b :: c :: d :: rest => do
      let digits ← [a, b, c, d].mapM Text.hexValue?
      some (digits.foldl (fun value digit => 16 * value + digit) 0, rest)
  | _ => none

/-- The character of two surrogate units. -/
def joinSurrogates (high low : Nat) : Char :=
  Char.ofNat (0x10000 + (high - 0xD800) * 0x400 + (low - 0xDC00))

/-- The character that a one-letter escape stands for. -/
def simpleEscape? (c : Char) : Option Char :=
  match c with
  | '"' => some '"'
  | '\\' => some '\\'
  | '/' => some '/'
  | 'b' => some '\x08'
  | 'f' => some '\x0C'
  | 'n' => some '\n'
  | 'r' => some '\r'
  | 't' => some '\t'
  | _ => none

/-- The rest of a string after its opening mark.  A surrogate without a partner
is read as the replacement character. -/
def readString (fuel : Nat) (text : Text) : Except ReadError (Text × Text) :=
  match fuel, text with
  | 0, _ => .error .malformed
  | _, [] => .error .malformed
  | _ + 1, '"' :: rest => .ok ([], rest)
  | fuel + 1, '\\' :: 'u' :: rest =>
      match unit? rest with
      | none => .error .malformed
      | some (unit, afterUnit) =>
          let pair :=
            if 0xD800 ≤ unit && unit < 0xDC00 then
              match afterUnit with
              | '\\' :: 'u' :: lowText =>
                  match unit? lowText with
                  | some (low, afterLow) =>
                      if 0xDC00 ≤ low && low < 0xE000 then
                        some (joinSurrogates unit low, afterLow)
                      else
                        none
                  | none => none
              | _ => none
            else
              none
          let (c, remaining) :=
            pair.getD
              (if 0xD800 ≤ unit && unit < 0xE000 then '\uFFFD' else Char.ofNat unit,
                afterUnit)
          (readString fuel remaining).map fun result => (c :: result.1, result.2)
  | fuel + 1, '\\' :: escape :: rest =>
      match simpleEscape? escape with
      | none => .error .malformed
      | some c => (readString fuel rest).map fun result => (c :: result.1, result.2)
  | fuel + 1, c :: rest =>
      if c.toNat < 0x20 || c = '\\' then .error .malformed
      else (readString fuel rest).map fun result => (c :: result.1, result.2)

/-- The digits of a fraction, if a point and a digit follow. -/
def fraction? : Text → Option (Text × Text)
  | '.' :: d :: rest =>
      if d.isDigit then some ((d :: rest).span Char.isDigit) else none
  | _ => none

/-- The power of ten after an exponent mark, if a digit follows. -/
def exponent? : Text → Option (Int × Text)
  | [] => none
  | mark :: rest =>
      if mark = 'e' || mark = 'E' then
        let (negative, body) := Numeral.splitSign rest
        let (digits, after) := body.span Char.isDigit
        if digits.isEmpty then none
        else
          let power : Int := Numeral.ofDigits (digits.map fun d => d.toNat - 0x30)
          some (if negative then -power else power, after)
      else
        none

/-- The number whose first digits are `whole`, before `rest`. -/
def readNumberAfter (negative : Bool) (whole rest : Text) : Except ReadError (Datum × Text) :=
  let (fraction, afterFraction) := (fraction? rest).getD ([], rest)
  let (power, after) := (exponent? afterFraction).getD (0, afterFraction)
  if after.length = rest.length then
    match Numeral.readInteger (if negative then '-' :: whole else whole) with
    | .ok n => .ok (.int n, rest)
    | .error cause => .error (.integer cause)
  else
    let digits := (whole ++ fraction).map fun d => d.toNat - 0x30
    let magnitude := Numeral.ofDecimal (Numeral.ofDigits digits)
      (power - fraction.length)
    .ok (.float (Numeral.signed negative magnitude), after)

/-- The number at the start of a text: no digit follows a leading zero. -/
def readNumber (text : Text) : Except ReadError (Datum × Text) :=
  let (negative, body) :=
    match text with
    | '-' :: rest => (true, rest)
    | _ => (false, text)
  match body with
  | '0' :: rest => readNumberAfter negative ['0'] rest
  | _ =>
      let (whole, rest) := body.span Char.isDigit
      if whole.isEmpty then .error .malformed
      else readNumberAfter negative whole rest

/-- The words that stand for values. -/
def words : List (Text × Datum) :=
  [("null".toList, .null), ("true".toList, .bool true), ("false".toList, .bool false),
    ("NaN".toList, .float (0 / 0)), ("Infinity".toList, .float (1 / 0)),
    ("-Infinity".toList, .float (-(1 / 0)))]

/-- The word at the start of a text. -/
def word? (text : Text) : Option (Datum × Text) :=
  words.findSome? fun word =>
    (Text.dropPrefix? word.1 text).map fun rest => (word.2, rest)

mutual

/-- The value at the start of a text. -/
def readValue (fuel : Nat) (text : Text) : Except ReadError (Datum × Text) :=
  match fuel with
  | 0 => .error .malformed
  | fuel + 1 =>
      match text with
      | '"' :: rest =>
          (readString (rest.length + 1) rest).map fun result =>
            (.text result.1, result.2)
      | '{' :: rest =>
          match skipSpaces rest with
          | '}' :: after => .ok (.object [], after)
          | entries => (readEntries fuel entries).map fun result =>
              (.object (OrderedMap.ofList result.1), result.2)
      | '[' :: rest =>
          match skipSpaces rest with
          | ']' :: after => .ok (.list [], after)
          | items => (readItems fuel items).map fun result =>
              (.list result.1, result.2)
      | _ =>
          match word? text with
          | some result => .ok result
          | none => readNumber text

/-- The items of a list up to its closing bracket. -/
def readItems (fuel : Nat) (text : Text) : Except ReadError (List Datum × Text) :=
  match fuel with
  | 0 => .error .malformed
  | fuel + 1 => do
      let (item, afterItem) ← readValue fuel text
      match skipSpaces afterItem with
      | ']' :: after => .ok ([item], after)
      | ',' :: rest =>
          let (items, after) ← readItems fuel (skipSpaces rest)
          .ok (item :: items, after)
      | _ => .error .malformed

/-- The entries of an object up to its closing brace. -/
def readEntries (fuel : Nat) (text : Text) : Except ReadError (List (Scalar × Datum) × Text) :=
  match fuel with
  | 0 => .error .malformed
  | fuel + 1 =>
      match text with
      | '"' :: rest => do
          let (key, afterKey) ← readString (rest.length + 1) rest
          match skipSpaces afterKey with
          | ':' :: valueText =>
              let (value, afterValue) ← readValue fuel (skipSpaces valueText)
              match skipSpaces afterValue with
              | '}' :: after => .ok ([(.text key, value)], after)
              | ',' :: next =>
                  let (entries, after) ← readEntries fuel (skipSpaces next)
                  .ok ((.text key, value) :: entries, after)
              | _ => .error .malformed
          | _ => .error .malformed
      | _ => .error .malformed

end

def read (text : Text) : Except ReadError Datum := do
  let body := skipSpaces text
  let (value, after) ← readValue (body.length + 1) body
  if (skipSpaces after).isEmpty then .ok value else .error .malformed

end Json

end CssAudit
