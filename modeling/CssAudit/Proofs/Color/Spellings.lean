import CssAudit.Proofs.Color.Hex
import CssAudit.Proofs.Text.Figure
import CssAudit.Proofs.Text.Padding
import CssAudit.Proofs.Value.Numbers
import CssAudit.Proofs.Value.Small

/-!
# Spellings of a color

A color without opacity is spelled by its six hexadecimal digits, with or without the number
sign, or by a function of three decimal channels, with letters in any case, leading zeros, and
blanks around the literal and its channels.  All spellings are read as the one color, and a
function of a channel that no color has is read as none.
-/

namespace CssAudit

namespace Text

theorem digitValue?_of_isDigit {c : Char} (digit : c.isDigit = true) :
    digitValue? c = some (c.toNat - '0'.toNat) := by
  have codes := isDigit_iff.mp digit
  rw [digitValue?, if_pos (by omega), if_pos digit]
  rfl

theorem isDecimal_of_isDigit {c : Char} (digit : c.isDigit = true) : isDecimal c = true := by
  rw [isDecimal, digitValue?_of_isDigit digit]
  rfl

theorem isDecimal_of_isBlank {c : Char} (blank : isBlank c = true) : isDecimal c = false := by
  rw [← Bool.not_eq_true]
  intro decimal
  rw [isBlank_of_isFigure (isFigure_of_isDecimal decimal)] at blank
  cases blank

end Text

namespace Numeral

theorem ofDigits_digitValues {digits : Text} (ascii : ∀ c ∈ digits, c.isDigit = true) :
    ofDigits (digits.filterMap Text.digitValue?) = Nat.ofDigitChars 10 digits 0 := by
  suffices after : ∀ start, (digits.filterMap Text.digitValue?).foldl
      (fun value digit => 10 * value + digit) start = Nat.ofDigitChars 10 digits start from after 0
  induction digits with
  | nil => intro start; rfl
  | cons c digits ih =>
      intro start
      obtain ⟨digit, others⟩ := List.forall_mem_cons.mp ascii
      rw [List.filterMap_cons_some (Text.digitValue?_of_isDigit digit), List.foldl_cons, ih others]
      rfl

end Numeral

namespace Color

/-- A channel in one to three decimal digits, with blanks around them. -/
inductive SpellsChannel (value : Nat) : Text → Prop
  | intro {digits text : Text} : (∀ c ∈ digits, c.isDigit = true) → digits ≠ [] →
      digits.length ≤ 3 → Nat.ofDigitChars 10 digits 0 = value → Text.Pads digits text →
      SpellsChannel value text

/-- A function of three channels. -/
def functionText (name first second third : Text) : Text :=
  name ++ '(' :: (first ++ ',' :: (second ++ ',' :: (third ++ [')'])))

/-- A function literal of three channels, with its name in any case. -/
inductive SpellsFunction (red green blue : Nat) : Text → Prop
  | intro {name first second third : Text} :
      Text.Alike name "rgb".toList ∨ Text.Alike name "rgba".toList →
      SpellsChannel red first → SpellsChannel green second → SpellsChannel blue third →
      SpellsFunction red green blue (functionText name first second third)

/-- A color by its hexadecimal digits in any case, or by a function of its channels. -/
inductive Spells (color : Color) : Text → Prop
  | signed {literal : Text} : Text.Alike literal color.hex → Spells color literal
  | bare {literal : Text} : Text.Alike ('#' :: literal) color.hex → Spells color literal
  | function {literal : Text} :
      SpellsFunction color.red.val color.green.val color.blue.val literal → Spells color literal

section Channel

variable {value : Nat} {text : Text}

theorem SpellsChannel.isBlank_or_isDigit (spells : SpellsChannel value text) :
    ∀ c ∈ text, Text.isBlank c = true ∨ c.isDigit = true := by
  obtain ⟨ascii, -, -, -, before, after, before_blank, after_blank, rfl⟩ := spells
  intro c member
  simp only [List.mem_append] at member
  rcases member with front | digit | back
  · exact .inl (before_blank c front)
  · exact .inr (ascii c digit)
  · exact .inl (after_blank c back)

theorem SpellsChannel.lowerChar_eq (spells : SpellsChannel value text) :
    ∀ c ∈ text, c ≠ Text.capitalSigma ∧ Text.lowerChar c = [c] := by
  intro c member
  rcases spells.isBlank_or_isDigit c member with blank | digit
  · refine ⟨?_, Text.lowerChar_of_isBlank blank⟩
    rintro rfl
    exact absurd blank (by decide)
  · have decimal := Text.isDecimal_of_isDigit digit
    exact ⟨Text.ne_of_isDecimal decimal (by decide), Text.lowerChar_of_isDecimal decimal⟩

theorem SpellsChannel.small_eq (spells : SpellsChannel value text) : text.small = text := by
  refine (List.map_congr_left fun c member => ?_).trans (List.map_id _)
  rcases spells.isBlank_or_isDigit c member with blank | digit
  · exact Text.toLower_of_isBlank blank
  · have codes := Text.isDigit_iff.mp digit
    exact Text.toLower_eq_self (by omega)

theorem SpellsChannel.channelNumber?_eq (spells : SpellsChannel value text) {stop : Char}
    (ends : Text.isDecimal stop = false) (rest : Text) :
    ∃ gap, Text.IsGap gap ∧
      channelNumber? (Text.trimStart (text ++ stop :: rest)) =
        some (value, gap ++ stop :: rest) := by
  obtain ⟨ascii, nonempty, short, value_eq, before, after, before_blank, after_blank, rfl⟩ := spells
  rename_i digits
  have decimal : ∀ c ∈ digits, Text.isDecimal c = true := fun c member =>
    Text.isDecimal_of_isDigit (ascii c member)
  have first : ∀ c, (digits ++ (after ++ stop :: rest)).head? = some c →
      Text.isBlank c = false := by
    intro c head
    rw [List.head?_append_of_ne_nil _ nonempty] at head
    exact Text.isBlank_of_isFigure
      (Text.isFigure_of_isDecimal (decimal c (List.mem_of_mem_head? head)))
  have behind : ∀ c, (after ++ stop :: rest).head? = some c → Text.isDecimal c = false := by
    intro c head
    cases after with
    | nil => exact Option.some.inj head ▸ ends
    | cons d after =>
        obtain rfl : d = c := Option.some.inj head
        exact Text.isDecimal_of_isBlank (after_blank d List.mem_cons_self)
  have run : (digits ++ (after ++ stop :: rest)).span Text.isDecimal =
      (digits, after ++ stop :: rest) := Text.span_eq_iff.mpr ⟨rfl, decimal, behind⟩
  have counted : (1 ≤ digits.length && digits.length ≤ 3) = true := by
    have some_digit := List.length_pos_of_ne_nil nonempty
    simpa using ⟨some_digit, short⟩
  refine ⟨after, after_blank, ?_⟩
  rw [List.append_assoc, List.append_assoc, before_blank.trimStart_append,
    Text.trimStart_eq_self first, channelNumber?, run]
  simp only [counted, if_true, Numeral.ofDigits_digitValues ascii, value_eq]

end Channel

theorem dropComma?_append {gap : Text} (blank : Text.IsGap gap) (rest : Text) :
    dropComma? (gap ++ ',' :: rest) = some (Text.trimStart rest) := by
  rw [dropComma?, blank.trimStart_append]
  rfl

theorem opacityToEnd?_append {gap : Text} (blank : Text.IsGap gap) :
    opacityToEnd? (gap ++ [')']) = some none := by
  have closing : isClosing (gap ++ [')']) = true := by
    rw [isClosing, blank.trimStart_append]
    rfl
  rw [opacityToEnd?, if_pos closing]

section Function

variable {red green blue : Nat} {name first second third : Text}
  (named : name = "rgb".toList ∨ name = "rgba".toList)
include named

theorem dropOpening?_functionText :
    dropOpening? "rgb".toList (functionText name first second third) =
      some (first ++ ',' :: (second ++ ',' :: (third ++ [')']))) := by
  rcases named with rfl | rfl <;> rfl

theorem functionText_of_named :
    ∃ rest, functionText name first second third = 'r' :: rest := by
  rcases named with rfl | rfl <;> exact ⟨_, rfl⟩

theorem trim_functionText :
    Text.trim (functionText name first second third) = functionText name first second third := by
  refine Text.trim_eq_self (fun c head => ?_) fun c last => ?_
  · obtain ⟨rest, shape⟩ := functionText_of_named named
    rw [shape] at head
    obtain rfl := Option.some.inj head
    decide
  · have closing : functionText name first second third =
        name ++ '(' :: (first ++ ',' :: (second ++ ',' :: third)) ++ [')'] := by
      simp [functionText]
    rw [closing, List.getLast?_concat] at last
    obtain rfl := Option.some.inj last
    decide

variable (spells_first : SpellsChannel red first) (spells_second : SpellsChannel green second)
  (spells_third : SpellsChannel blue third)
include spells_first spells_second spells_third

theorem ofRgb?_functionText :
    ofRgb? (functionText name first second third) =
      (ofNumbers red green blue none).toOption := by
  have comma : Text.isDecimal ',' = false := by decide
  have closing : Text.isDecimal ')' = false := by decide
  obtain ⟨_, after_red, red_eq⟩ :=
    spells_first.channelNumber?_eq comma (second ++ ',' :: (third ++ [')']))
  obtain ⟨_, after_green, green_eq⟩ := spells_second.channelNumber?_eq comma (third ++ [')'])
  obtain ⟨_, after_blue, blue_eq⟩ := spells_third.channelNumber?_eq closing []
  simp only [ofRgb?, dropOpening?_functionText named, Option.bind_eq_bind, Option.bind_some,
    red_eq, dropComma?_append after_red, green_eq, dropComma?_append after_green, blue_eq,
    opacityToEnd?_append after_blue]

theorem lower_functionText :
    Text.lower (functionText name first second third) =
      functionText name first second third := by
  have letters : ∀ c ∈ name, c ≠ Text.capitalSigma ∧ Text.lowerChar c = [c] := by
    rcases named with rfl | rfl <;> simp [Text.lowerChar, Text.capitalSigma]
  refine Text.lower_eq_self_of_lowerChar fun c member => ?_
  simp only [functionText, List.mem_append, List.mem_cons, List.not_mem_nil, or_false] at member
  rcases member with letter | rfl | channel | rfl | channel | rfl | channel | rfl
  · exact letters c letter
  · decide
  · exact spells_first.lowerChar_eq c channel
  · decide
  · exact spells_second.lowerChar_eq c channel
  · decide
  · exact spells_third.lowerChar_eq c channel
  · decide

/-- No other way of spelling a color takes a function of channels for its own. -/
theorem parse?_functionText :
    parse? (functionText name first second third) =
      (ofNumbers red green blue none).toOption := by
  have unnamed : ofName? (functionText name first second third) = none :=
    ofName?_eq_none (fun name => !name.contains '(') (by decide) (by simp [functionText])
  have unsigned : ofHex? (functionText name first second third) = none := by
    obtain ⟨rest, shape⟩ := functionText_of_named named
    rw [shape]
    rfl
  have other : ofHsl? (functionText name first second third) = none := by
    obtain ⟨rest, shape⟩ := functionText_of_named named
    rw [shape]
    rfl
  rw [parse?, trim_functionText named,
    lower_functionText named spells_first spells_second spells_third, unnamed, unsigned,
    ofRgb?_functionText named spells_first spells_second spells_third, other, Option.none_or,
    Option.none_or, Option.or_none]

end Function

/-- Blanks around a literal and the case of its letters do not matter. -/
theorem parse?_of_pads {inner outer : Text} (pads : Text.Pads inner outer) :
    parse? outer = parse? inner := by
  rw [parse?, pads.trim_eq, ← parse?]

theorem parse?_of_alike {first second : Text} (alike : Text.Alike first second) :
    parse? first = parse? second := by
  rw [← parse?_small first, alike, parse?_small]

theorem SpellsFunction.parse?_eq {red green blue : Nat} {literal : Text}
    (spells : SpellsFunction red green blue literal) :
    parse? literal = (ofNumbers red green blue none).toOption := by
  obtain ⟨named, first, second, third⟩ := spells
  rename_i name first_text second_text third_text
  have small_eq : (functionText name first_text second_text third_text).small =
      functionText name.small first_text second_text third_text := by
    simp only [functionText, Text.small_append, Text.small_cons, first.small_eq, second.small_eq,
      third.small_eq]
    rfl
  have named_small : name.small = "rgb".toList ∨ name.small = "rgba".toList := by
    rcases named with alike | alike
    · exact .inl alike
    · exact .inr alike
  rw [← parse?_small, small_eq, parse?_functionText named_small first second third]

theorem Spells.parse?_eq {color : Color} (solid : color.opacity = none) {literal : Text}
    (spells : Spells color literal) : parse? literal = some color := by
  cases spells with
  | signed alike => rw [parse?_of_alike alike, parse?_hex solid]
  | bare alike =>
      rw [hex_eq] at alike
      have digits : Text.Alike literal (color.digits.map Nat.digitChar) :=
        (List.cons.inj alike).2
      rw [parse?_of_alike digits, parse?_digits solid]
  | function spells =>
      rw [spells.parse?_eq]
      obtain ⟨red, green, blue, opacity⟩ := color
      obtain rfl : opacity = none := solid
      simp only [ofNumbers, channel_val]
      rfl

theorem ofNumbers_of_excess {red green blue : Nat}
    (excess : 255 < red ∨ 255 < green ∨ 255 < blue) :
    ∃ value, 255 < value ∧ ofNumbers red green blue none = .error (.channelOutOfRange value) := by
  have refused {value : Nat} (large : 255 < value) :
      channel value = .error (.channelOutOfRange value) := by
    rw [channel, dif_neg (by omega)]
  have allowed {value : Nat} (small : ¬ 255 < value) : ∃ result, channel value = .ok result := by
    rw [channel, dif_pos (by omega)]
    exact ⟨_, rfl⟩
  by_cases large_red : 255 < red
  · exact ⟨red, by omega, by simp only [ofNumbers, refused large_red]; rfl⟩
  obtain ⟨_, red_eq⟩ := allowed large_red
  by_cases large_green : 255 < green
  · exact ⟨green, by omega, by simp only [ofNumbers, red_eq, refused large_green]; rfl⟩
  obtain ⟨_, green_eq⟩ := allowed large_green
  have large_blue : 255 < blue := by tauto
  exact ⟨blue, by omega, by simp only [ofNumbers, red_eq, green_eq, refused large_blue]; rfl⟩

/-- All spellings of a color without opacity, with blanks around them, are read as the color,
and so is the one that it is written in.  A function of a channel that no color has is read
as no color, though the channels on their own are an error. -/
theorem spellings_agree {literal text : Text} (pads : Text.Pads literal text) :
    (∀ red green blue : Fin 256, Spells ⟨red, green, blue, none⟩ literal →
        parse? text = some ⟨red, green, blue, none⟩ ∧
        parse? (hex ⟨red, green, blue, none⟩) = some ⟨red, green, blue, none⟩) ∧
      ∀ red green blue : Nat, SpellsFunction red green blue literal →
        255 < red ∨ 255 < green ∨ 255 < blue →
        (∃ value, 255 < value ∧
          ofNumbers red green blue none = .error (.channelOutOfRange value)) ∧
        parse? text = none := by
  rw [parse?_of_pads pads]
  refine ⟨fun red green blue spells => ⟨spells.parse?_eq rfl, parse?_hex rfl⟩,
    fun red green blue spells excess => ?_⟩
  obtain ⟨value, large, refused⟩ := ofNumbers_of_excess excess
  refine ⟨⟨value, large, refused⟩, ?_⟩
  rw [spells.parse?_eq, refused]
  rfl

/-- A function in mixed case with leading zeros, a tab and a wide space, and one whose last
channel is one too large. -/
theorem spellings_agree_on_padded_functions :
    (Spells ⟨7, 255, 0, none⟩ "RgbA(007,\t255 ,\u30000)".toList ∧
        parse? " RgbA(007,\t255 ,\u30000)\n".toList = some ⟨7, 255, 0, none⟩) ∧
      SpellsFunction 0 12 256 "rgb( 0,12, 256)".toList ∧
      parse? "rgb( 0,12, 256)".toList = none := by
  have channel {value : Nat} (before digits after : Text)
      (blank : Text.IsGap before ∧ Text.IsGap after)
      (ascii : ∀ c ∈ digits, c.isDigit = true) (short : digits ≠ [] ∧ digits.length ≤ 3)
      (value_eq : Nat.ofDigitChars 10 digits 0 = value) :
      SpellsChannel value (before ++ (digits ++ after)) :=
    .intro ascii short.1 short.2 value_eq ⟨before, after, blank.1, blank.2, rfl⟩
  have first : SpellsChannel 7 "007".toList :=
    channel [] "007".toList [] (by decide) (by simp) (by decide) (by decide)
  have second : SpellsChannel 255 "\t255 ".toList :=
    channel ['\t'] "255".toList [' '] (by decide) (by simp) (by decide) (by decide)
  have third : SpellsChannel 0 "\u30000".toList :=
    channel ['\u3000'] ['0'] [] (by decide) (by simp) (by decide) (by decide)
  have named : Text.Alike "RgbA".toList "rgba".toList := by decide
  have small : Spells ⟨7, 255, 0, none⟩ "RgbA(007,\t255 ,\u30000)".toList :=
    .function (.intro (.inr named) first second third)
  have zero : SpellsChannel 0 " 0".toList :=
    channel [' '] ['0'] [] (by decide) (by simp) (by decide) (by decide)
  have twelve : SpellsChannel 12 "12".toList :=
    channel [] "12".toList [] (by decide) (by simp) (by decide) (by decide)
  have excess : SpellsChannel 256 " 256".toList :=
    channel [' '] "256".toList [] (by decide) (by simp) (by decide) (by decide)
  have large : SpellsFunction 0 12 256 "rgb( 0,12, 256)".toList :=
    .intro (.inl rfl) zero twelve excess
  have padded : Text.Pads "RgbA(007,\t255 ,\u30000)".toList
      " RgbA(007,\t255 ,\u30000)\n".toList := ⟨[' '], ['\n'], by decide, by decide, rfl⟩
  exact ⟨⟨small, ((spellings_agree padded).1 7 255 0 small).1⟩, large,
    ((spellings_agree (Text.pads_self _)).2 0 12 256 large (.inr (.inr (by decide)))).2⟩

end Color

end CssAudit
