import CssAudit.Proofs.Text.Folded
import CssAudit.Proofs.Value.Tokens

/-!
# Written numbers

A number is written with a sign, digits of any script and at most one point, and a length
is a number with a unit.  Numbers are read from the start of a text as far as they go, and
a token is read as a length exactly if it is written as one.  Every number starts with a
sign, a point or neither, and a digit.
-/

namespace CssAudit

namespace Text

/-- The longest run of a class at the start of a text, and what follows it. -/
theorem span_eq_iff {p : Char → Bool} {text start rest : Text} :
    text.span p = (start, rest) ↔
      text = start ++ rest ∧ (∀ c ∈ start, p c = true) ∧
        ∀ c, rest.head? = some c → p c = false := by
  rw [List.span_eq_takeWhile_dropWhile, Prod.mk.injEq]
  constructor
  · rintro ⟨rfl, rfl⟩
    refine ⟨List.takeWhile_append_dropWhile.symm, fun _ => List.mem_takeWhile_imp, ?_⟩
    intro c first
    have kept := List.head?_dropWhile_not p text
    rw [first] at kept
    simpa using kept
  · rintro ⟨rfl, within, after⟩
    rw [List.takeWhile_append_of_pos within, List.dropWhile_append_of_pos within]
    cases rest with
    | nil => simp
    | cons c rest => simp [after c rfl]

end Text

namespace Value

/-- A sign, or none. -/
def IsSign (sign : Text) : Prop :=
  sign = [] ∨ sign = ['+'] ∨ sign = ['-']

/-- The point in front of the digits of a fraction, if there is one. -/
def pointed : Option Text → Text
  | none => []
  | some places => '.' :: places

/-- A decimal number as it is written: a sign, digits, and perhaps a point and more
digits, of which one side at least has some. -/
structure WrittenNumber where
  sign : Text
  whole : Text
  fraction : Option Text
  isSign : IsSign sign
  decimal : ∀ c ∈ whole ++ fraction.getD [], Text.isDecimal c = true
  valued : whole ++ fraction.getD [] ≠ []

namespace WrittenNumber

def text (written : WrittenNumber) : Text :=
  written.sign ++ (written.whole ++ pointed written.fraction)

/-- The number that is written. -/
def value (written : WrittenNumber) : Float :=
  Numeral.signed (written.sign = ['-'])
    (Numeral.ofDigitTexts written.whole (written.fraction.getD []))

/-- Whether a number goes no further where a text begins. -/
def EndsBefore (written : WrittenNumber) (after : Text) : Prop :=
  ∀ c, after.head? = some c →
    Text.isDecimal c = false ∧ (written.fraction = none → c ≠ '.')

end WrittenNumber

theorem exists_sign (text : Text) :
    ∃ sign, IsSign sign ∧ text = sign ++ (Numeral.splitSign text).2 ∧
      (Numeral.splitSign text).1 = decide (sign = ['-']) := by
  unfold Numeral.splitSign
  split
  · exact ⟨['-'], by simp [IsSign], rfl, rfl⟩
  · exact ⟨['+'], by simp [IsSign], rfl, rfl⟩
  · exact ⟨[], by simp [IsSign], rfl, rfl⟩

theorem splitSign_of_unsigned {body : Text}
    (unsigned : ∀ c, body.head? = some c → c ≠ '+' ∧ c ≠ '-') :
    Numeral.splitSign body = (false, body) := by
  unfold Numeral.splitSign
  split
  · exact absurd rfl (unsigned '-' rfl).2
  · exact absurd rfl (unsigned '+' rfl).1
  · rfl

theorem splitSign_append {sign body : Text} (isSign : IsSign sign)
    (unsigned : ∀ c, body.head? = some c → c ≠ '+' ∧ c ≠ '-') :
    Numeral.splitSign (sign ++ body) = (decide (sign = ['-']), body) := by
  rcases isSign with rfl | rfl | rfl
  · exact splitSign_of_unsigned unsigned
  · rfl
  · rfl

theorem WrittenNumber.unsigned (written : WrittenNumber) (after : Text) :
    ∀ c, (written.whole ++ (pointed written.fraction ++ after)).head? = some c →
      c ≠ '+' ∧ c ≠ '-' := by
  obtain ⟨sign, whole, fraction, isSign, decimal, valued⟩ := written
  intro c first
  cases whole with
  | cons digit whole =>
      obtain rfl : digit = c := by simpa using first
      have digit_decimal := decimal digit (by simp)
      exact ⟨Text.ne_of_isDecimal digit_decimal (by decide),
        Text.ne_of_isDecimal digit_decimal (by decide)⟩
  | nil =>
      cases fraction with
      | none => exact absurd rfl valued
      | some places =>
          obtain rfl : '.' = c := by simpa [pointed] using first
          decide

/-- The digits after the point at the start of a text, and what follows them. -/
def fractionDigits : Text → Text × Text
  | '.' :: places => places.span Text.isDecimal
  | text => ([], text)

theorem fractionDigits_eq_iff {text places after : Text} :
    fractionDigits text = (places, after) ∧
        (∀ c, text.head? = some c → Text.isDecimal c = false) ↔
      ∃ fraction : Option Text, places = fraction.getD [] ∧ text = pointed fraction ++ after ∧
        (∀ c ∈ places, Text.isDecimal c = true) ∧
        ∀ c, after.head? = some c → Text.isDecimal c = false ∧ (fraction = none → c ≠ '.') := by
  constructor
  · rintro ⟨read, begins⟩
    unfold fractionDigits at read
    split at read
    · obtain ⟨rfl, decimal, ends⟩ := Text.span_eq_iff.mp read
      exact ⟨some places, rfl, rfl, decimal, fun c first =>
        ⟨ends c first, fun absent => by cases absent⟩⟩
    · rename_i no_point
      rw [Prod.mk.injEq] at read
      obtain ⟨rfl, rfl⟩ := read
      refine ⟨none, rfl, rfl, by simp, fun c first => ⟨begins c first, ?_⟩⟩
      rintro - rfl
      obtain ⟨rest, shape⟩ := List.head?_eq_some_iff.mp first
      exact no_point rest shape
  · rintro ⟨fraction, rfl, rfl, decimal, ends⟩
    cases fraction with
    | none =>
        refine ⟨?_, fun c first => (ends c first).1⟩
        unfold fractionDigits
        split
        · rename_i rest shape
          have first : after.head? = some '.' := congrArg List.head? shape
          exact absurd rfl ((ends '.' first).2 rfl)
        · rfl
    | some places =>
        refine ⟨Text.span_eq_iff.mpr ⟨rfl, decimal, fun c first => (ends c first).1⟩, ?_⟩
        rintro c first
        obtain rfl : '.' = c := by simpa [pointed] using first
        decide

theorem number?_of_parts {text body whole rest places after : Text} {negative : Bool}
    (sign_eq : Numeral.splitSign text = (negative, body))
    (whole_eq : body.span Text.isDecimal = (whole, rest))
    (places_eq : fractionDigits rest = (places, after)) :
    number? text = if whole.isEmpty && places.isEmpty then none
      else some (Numeral.signed negative (Numeral.ofDigitTexts whole places), after) := by
  simp only [number?, sign_eq, whole_eq]
  unfold fractionDigits at places_eq
  split at places_eq
  · simp only [places_eq]
  · rw [Prod.mk.injEq] at places_eq
    obtain ⟨rfl, rfl⟩ := places_eq
    simp

/-- A number is read from the start of a text exactly if one is written there that goes
no further. -/
theorem number?_eq_some_iff {text after : Text} {number : Float} :
    number? text = some (number, after) ↔
      ∃ written : WrittenNumber, text = written.text ++ after ∧ number = written.value ∧
        written.EndsBefore after := by
  constructor
  · intro read
    obtain ⟨sign, isSign, shape, negative_eq⟩ := exists_sign text
    rcases sign_eq : Numeral.splitSign text with ⟨negative, body⟩
    rcases whole_eq : body.span Text.isDecimal with ⟨whole, rest⟩
    rcases places_eq : fractionDigits rest with ⟨places, later⟩
    rw [number?_of_parts sign_eq whole_eq places_eq] at read
    split at read
    · exact absurd read (by simp)
    rename_i some_digit
    rw [Option.some.injEq, Prod.mk.injEq] at read
    obtain ⟨rfl, rfl⟩ := read
    rw [sign_eq] at shape negative_eq
    obtain ⟨rfl, whole_decimal, begins⟩ := Text.span_eq_iff.mp whole_eq
    obtain ⟨fraction, rfl, rfl, places_decimal, ends⟩ :=
      fractionDigits_eq_iff.mp ⟨places_eq, begins⟩
    refine ⟨⟨sign, whole, fraction, isSign, ?_, ?_⟩, ?_, ?_, ends⟩
    · exact List.forall_mem_append.mpr ⟨whole_decimal, places_decimal⟩
    · simpa using some_digit
    · simpa [WrittenNumber.text] using shape
    · rw [WrittenNumber.value, ← negative_eq]
  · rintro ⟨written, rfl, rfl, ends⟩
    have sign_eq := splitSign_append written.isSign (written.unsigned after)
    obtain ⟨sign, whole, fraction, isSign, decimal, valued⟩ := written
    obtain ⟨whole_decimal, places_decimal⟩ := List.forall_mem_append.mp decimal
    obtain ⟨places_eq, begins⟩ :=
      fractionDigits_eq_iff.mpr ⟨fraction, rfl, rfl, places_decimal, ends⟩
    have whole_eq := Text.span_eq_iff.mpr ⟨rfl, whole_decimal, begins⟩
    have shape : WrittenNumber.text ⟨sign, whole, fraction, isSign, decimal, valued⟩ ++ after =
        sign ++ (whole ++ (pointed fraction ++ after)) := by
      simp [WrittenNumber.text]
    rw [shape, number?_of_parts sign_eq whole_eq places_eq, if_neg (by simpa using valued)]
    rfl

/-- A number with a unit as it is written. -/
structure WrittenLength where
  number : WrittenNumber
  unit : Text
  units : ∀ c ∈ unit, isUnitChar c = true

def WrittenLength.text (written : WrittenLength) : Text :=
  written.number.text ++ written.unit

theorem isDecimal_of_isFoldedLetter {c : Char} (letter : Text.isFoldedLetter c = true) :
    Text.isDecimal c = false := by
  have foreign_apart : Text.foreignLetters.all (fun d => !Text.isDecimal d) = true := by decide
  rcases Text.isFoldedLetter_cases letter with foreign | ⟨low, high, _⟩
  · simpa using List.all_eq_true.mp foreign_apart c foreign
  · have undigit : ¬ c.isDigit = true := by
      rw [Text.isDigit_iff]
      omega
    simp [Text.isDecimal, Text.digitValue?, show c.toNat < 0x80 by omega, undigit]

theorem ne_of_isFoldedLetter {c d : Char} (letter : Text.isFoldedLetter c = true)
    (foreign : Text.isFoldedLetter d = false) : c ≠ d := by
  rintro rfl
  rw [letter] at foreign
  exact absurd foreign (by decide)

theorem WrittenNumber.endsBefore_unit (written : WrittenNumber) {unit : Text}
    (units : ∀ c ∈ unit, isUnitChar c = true) : written.EndsBefore unit := by
  intro c first
  have unit_char := units c (List.mem_of_mem_head? first)
  simp only [isUnitChar, Bool.or_eq_true, decide_eq_true_eq] at unit_char
  rcases unit_char with letter | rfl
  · exact ⟨isDecimal_of_isFoldedLetter letter, fun _ =>
      ne_of_isFoldedLetter letter (by decide)⟩
  · exact ⟨by decide, fun _ => by decide⟩

theorem length?_eq_some_iff {token : Text} {found : Component} :
    length? token = some found ↔ ∃ written : WrittenLength, token = written.text ∧
      found = .length token written.number.value (Text.lower written.unit) := by
  constructor
  · intro read
    obtain ⟨⟨number, unit⟩, number_eq, read⟩ := Option.bind_eq_some_iff.mp read
    obtain ⟨written, shape, rfl, _⟩ := number?_eq_some_iff.mp number_eq
    dsimp only at read
    split at read
    · rename_i units
      exact ⟨⟨written, unit, List.all_eq_true.mp units⟩, shape, (Option.some.inj read).symm⟩
    · exact absurd read (by simp)
  · rintro ⟨⟨number, unit, units⟩, shape, rfl⟩
    have number_eq : number? token = some (number.value, unit) :=
      number?_eq_some_iff.mpr ⟨number, shape, rfl, number.endsBefore_unit units⟩
    rw [length?, number_eq]
    exact if_pos (List.all_eq_true.mpr units)

/-- Whether a length may hold a character. -/
def isLengthChar (c : Char) : Bool :=
  Text.isDecimal c || c = '+' || c = '-' || c = '.' || isUnitChar c

theorem WrittenNumber.isLengthChar_of_mem (written : WrittenNumber) :
    ∀ c ∈ written.text, isLengthChar c = true := by
  obtain ⟨sign, whole, fraction, isSign, decimal, valued⟩ := written
  obtain ⟨whole_decimal, places_decimal⟩ := List.forall_mem_append.mp decimal
  have of_decimal {c : Char} (digit : Text.isDecimal c = true) : isLengthChar c = true := by
    simp [isLengthChar, digit]
  intro c member
  simp only [text, List.mem_append] at member
  rcases member with inSign | inWhole | inPlaces
  · rcases isSign with rfl | rfl | rfl
    · simp at inSign
    · rw [List.mem_singleton.mp inSign]
      decide
    · rw [List.mem_singleton.mp inSign]
      decide
  · exact of_decimal (whole_decimal c inWhole)
  · cases fraction with
    | none => simp [pointed] at inPlaces
    | some places =>
        rcases List.mem_cons.mp inPlaces with rfl | inPlaces
        · decide
        · exact of_decimal (places_decimal c inPlaces)

theorem isLengthChar_of_length? {token : Text} {found : Component}
    (read : length? token = some found) : ∀ c ∈ token, isLengthChar c = true := by
  obtain ⟨⟨number, unit, units⟩, rfl, -⟩ := length?_eq_some_iff.mp read
  refine List.forall_mem_append.mpr ⟨number.isLengthChar_of_mem, fun c member => ?_⟩
  simp [isLengthChar, units c member]

theorem length?_eq_none_iff {token : Text} :
    length? token = none ↔ ∀ written : WrittenLength, token ≠ written.text := by
  constructor
  · intro unread written shape
    rw [length?_eq_some_iff.mpr ⟨written, shape, rfl⟩] at unread
    exact absurd unread (by simp)
  · intro other
    rw [Option.eq_none_iff_forall_ne_some]
    intro found read
    obtain ⟨written, shape, _⟩ := length?_eq_some_iff.mp read
    exact other written shape

/-- A text that starts like a number: a sign, a point or none, and a digit. -/
def StartsNumeric (text : Text) : Prop :=
  ∃ (sign point : Text) (digit : Char) (rest : Text), IsSign sign ∧
    (point = [] ∨ point = ['.']) ∧ Text.isDecimal digit = true ∧
      text = sign ++ (point ++ digit :: rest)

theorem looksNumeric_iff {text : Text} : looksNumeric text = true ↔ StartsNumeric text := by
  constructor
  · intro numeric
    obtain ⟨sign, isSign, shape, _⟩ := exists_sign text
    rcases sign_eq : Numeral.splitSign text with ⟨negative, body⟩
    rw [sign_eq] at shape
    simp only [looksNumeric, sign_eq, Option.any_eq_true] at numeric
    obtain ⟨digit, first, decimal⟩ := numeric
    cases dropped : Text.dropPrefix? ['.'] body with
    | some after =>
        rw [dropped, Option.getD_some] at first
        obtain ⟨rest, rfl⟩ := List.head?_eq_some_iff.mp first
        rw [Text.dropPrefix?_eq_some_iff] at dropped
        exact ⟨sign, ['.'], digit, rest, isSign, .inr rfl, decimal, by rw [shape, dropped]⟩
    | none =>
        rw [dropped, Option.getD_none] at first
        obtain ⟨rest, rfl⟩ := List.head?_eq_some_iff.mp first
        exact ⟨sign, [], digit, rest, isSign, .inl rfl, decimal, shape⟩
  · rintro ⟨sign, point, digit, rest, isSign, known, decimal, rfl⟩
    have other {c : Char} := Text.ne_of_isDecimal (d := c) decimal
    have sign_eq : Numeral.splitSign (sign ++ (point ++ digit :: rest)) =
        (decide (sign = ['-']), point ++ digit :: rest) := by
      refine splitSign_append isSign fun c first => ?_
      rcases known with rfl | rfl
      · obtain rfl : digit = c := by simpa using first
        exact ⟨other (by decide), other (by decide)⟩
      · obtain rfl : '.' = c := by simpa using first
        decide
    rw [looksNumeric, sign_eq]
    rcases known with rfl | rfl
    · simp [Text.dropPrefix?, Ne.symm (other (c := '.') (by decide)), decimal]
    · simp [Text.dropPrefix?, decimal]

theorem WrittenNumber.startsNumeric (written : WrittenNumber) (after : Text) :
    StartsNumeric (written.text ++ after) := by
  obtain ⟨sign, whole, fraction, isSign, decimal, valued⟩ := written
  cases whole with
  | cons digit whole =>
      exact ⟨sign, [], digit, _, isSign, .inl rfl, decimal digit (by simp), by simp [text]; rfl⟩
  | nil =>
      cases fraction with
      | none => exact absurd rfl valued
      | some places =>
          cases places with
          | nil => exact absurd rfl valued
          | cons digit places =>
              exact ⟨sign, ['.'], digit, _, isSign, .inr rfl, decimal digit (by simp), by
                simp [text, pointed]; rfl⟩

theorem length?_of_not_startsNumeric {token : Text} (other : ¬ StartsNumeric token) :
    length? token = none := by
  rw [length?_eq_none_iff]
  rintro written rfl
  exact other (written.number.startsNumeric written.unit)

theorem not_startsNumeric_hash (rest : Text) : ¬ StartsNumeric ('#' :: rest) := by
  rw [← looksNumeric_iff]
  exact Bool.false_ne_true

end Value

end CssAudit
