import CssAudit.Proofs.Text.Small
import CssAudit.Value.Parser
import CssAudit.Value.Tokens

/-!
# Values in small letters

A value read from a text in small letters is the value read from the text, with its own
texts in small letters: the same tokens, of the same kinds, with the same numbers, units
and colors.
-/

namespace CssAudit

open Text

theorem Numeral.splitSign_small (text : Text) :
    splitSign (small text) = ((splitSign text).1, small (splitSign text).2) := by
  fun_cases splitSign text with
  | case1 rest => rfl
  | case2 rest => rfl
  | case3 _ minus plus =>
      cases text with
      | nil => rfl
      | cons c rest =>
          have minus_apart : ¬ c.toLower = '-' := by
            rw [toLower_eq_iff (by decide)]
            rintro rfl
            exact minus rest rfl
          have plus_apart : ¬ c.toLower = '+' := by
            rw [toLower_eq_iff (by decide)]
            rintro rfl
            exact plus rest rfl
          simp [splitSign, minus_apart, plus_apart]

theorem Numeral.ofDigitTexts_small (whole fraction : Text) :
    ofDigitTexts (small whole) (small fraction) = ofDigitTexts whole fraction := by
  have digits : digitValue? ∘ Char.toLower = digitValue? := funext digitValue?_toLower
  rw [ofDigitTexts, ← small_append, length_small, small, List.filterMap_map, digits, ofDigitTexts]

theorem Color.parse?_small (text : Text) : Color.parse? (small text) = Color.parse? text := by
  rw [Color.parse?, trim_small, lower_small, Color.parse?]

namespace Value

theorem isUnitChar_toLower (c : Char) : isUnitChar c.toLower = isUnitChar c := by
  simp [isUnitChar, isFoldedLetter_toLower, toLower_eq_iff]

theorem isNameStart_toLower (c : Char) : isNameStart c.toLower = isNameStart c := by
  simp [isNameStart, isFoldedLetter_toLower, toLower_eq_iff]

theorem isNameChar_toLower (c : Char) : isNameChar c.toLower = isNameChar c := by
  simp [isNameChar, isFoldedLetter_toLower, isDigit_toLower, toLower_eq_iff]

/-- A component with its texts in small letters. -/
def Component.small : Component → Component
  | .keyword text => .keyword text.small
  | .color text value => .color text.small value
  | .length text number unit => .length text.small number unit
  | .function text name arguments balanced =>
      .function text.small name.small arguments.small balanced
  | .unparsed text => .unparsed text.small

theorem Component.text_small (component : Component) :
    component.small.text = component.text.small := by
  cases component <;> rfl

end Value

/-- A value with its texts in small letters. -/
def Value.small : Value → Value
  | .single component => .single component.small
  | .composite text parts => .composite text.small (parts.map (·.small))

namespace Value

theorem number?_small (text : Text) :
    number? text.small = (number? text).map fun read => (read.1, read.2.small) := by
  unfold number?
  simp only [Numeral.splitSign_small, span_small isDecimal_toLower]
  generalize (Numeral.splitSign text).1 = negative
  generalize (Numeral.splitSign text).2.span isDecimal = run
  obtain ⟨whole, rest⟩ := run
  -- A point leads to a second run of digits; without one there is no fraction.
  have finish (fraction after : Text) :
      (if ((Text.small whole).isEmpty && fraction.small.isEmpty) = true then none
        else some (Numeral.signed negative (Numeral.ofDigitTexts (Text.small whole) fraction.small),
          after.small)) =
      Option.map (fun read => (read.1, Text.small read.2))
        (if (whole.isEmpty && fraction.isEmpty) = true then none
          else some (Numeral.signed negative (Numeral.ofDigitTexts whole fraction), after)) := by
    simp only [isEmpty_small, Numeral.ofDigitTexts_small]
    split <;> rfl
  cases rest with
  | nil => exact finish [] []
  | cons c rest =>
      by_cases point : c = '.'
      · subst point
        have read := finish (rest.span isDecimal).1 (rest.span isDecimal).2
        simpa [takeWhile_small isDecimal_toLower, dropWhile_small isDecimal_toLower] using read
      · have point_small : ¬ c.toLower = '.' := by rwa [toLower_eq_iff (by decide)]
        have read := finish [] (c :: rest)
        simpa [point, point_small] using read

theorem length?_small (token : Text) : length? token.small = (length? token).map (·.small) := by
  rw [length?, length?, number?_small]
  cases number? token with
  | none => rfl
  | some read =>
      simp only [Option.map_some, Option.bind_eq_bind, Option.bind_some,
        all_small isUnitChar_toLower, lower_small]
      split <;> rfl

theorem identifier?_small (text : Text) :
    identifier? text.small = (identifier? text).map fun read => (read.1.small, read.2.small) := by
  -- The same holds of what stands behind a dash and of a text without one.
  have body (dash : Text) (c : Char) (rest : Text) :
      (if isNameStart c.toLower = true then
          some (Text.small dash ++ c.toLower :: ((Text.small rest).span isNameChar).1,
            ((Text.small rest).span isNameChar).2)
        else none) =
      Option.map (fun read : Text × Text => (Text.small read.1, Text.small read.2))
        (if isNameStart c = true then
          some (dash ++ c :: (rest.span isNameChar).1, (rest.span isNameChar).2)
        else none) := by
    simp only [isNameStart_toLower, span_small isNameChar_toLower]
    split
    · simp
    · rfl
  cases text with
  | nil => rfl
  | cons c rest =>
      by_cases dash : c = '-'
      · subst dash
        cases rest with
        | nil => rfl
        | cons c rest => exact body ['-'] c rest
      · have dash_small : ¬ c.toLower = '-' := by rwa [toLower_eq_iff (by decide)]
        have read := body [] c rest
        simpa [identifier?, dash, dash_small] using read

theorem isBalanced_small (text : Text) : isBalanced text.small = isBalanced text := by
  rw [isBalanced, count_small (by decide), count_small (by decide), isBalanced]

theorem dropClosing_small (text : Text) : dropClosing text.small = (dropClosing text).small := by
  simp only [dropClosing, getLast?_small_eq_iff (show (')').isAlpha = false by decide)]
  split
  · exact List.map_dropLast.symm
  · rfl

theorem function?_small (token : Text) :
    function? token.small = (function? token).map (·.small) := by
  rw [function?, function?, identifier?_small]
  cases identifier? token with
  | none => rfl
  | some read =>
      simp only [Option.map_some, Option.bind_eq_bind, Option.bind_some, trimStart_small,
        dropPrefix?_small (show ('(').isAlpha = false by decide)]
      cases dropPrefix? ['('] (trimStart read.2) with
      | none => rfl
      | some arguments => simp [dropClosing_small, trim_small, isBalanced_small, Component.small]

theorem isIdentifier_small (token : Text) : isIdentifier token.small = isIdentifier token := by
  rw [isIdentifier, isIdentifier, identifier?_small]
  cases identifier? token with
  | none => rfl
  | some read => simp

theorem plainComponent_small (token : Text) :
    plainComponent token.small = (plainComponent token).small := by
  simp only [plainComponent, head?_small_eq_iff (show ('#').isAlpha = false by decide),
    Color.parse?_small, isIdentifier_small]
  split
  · cases Color.parse? token <;> rfl
  · split <;> rfl

theorem component_small (token : Text) : component token.small = (component token).small := by
  rw [component, component, length?_small, function?_small, plainComponent_small]
  cases length? token with
  | some length => rfl
  | none => cases function? token <;> rfl

/-- Whether a quotation that is open was opened by a quotation mark, and not by a letter. -/
def Nesting.IsQuoted (nesting : Nesting) : Prop :=
  ∀ mark, nesting.quote = some mark → mark.isAlpha = false

theorem Nesting.separates_toLower (nesting : Nesting) (c : Char) :
    nesting.separates c.toLower = nesting.separates c := by
  rw [separates, isBlank_toLower, separates]

theorem Nesting.advance_toLower {nesting : Nesting} (quoted : nesting.IsQuoted) (c : Char) :
    nesting.advance c.toLower = nesting.advance c := by
  cases quote_eq : nesting.quote with
  | some mark => simp only [advance, quote_eq, toLower_eq_iff (quoted mark quote_eq)]
  | none =>
      by_cases opens : c = '"' ∨ c = '\''
      · rcases opens with rfl | rfl <;> rfl
      · rw [not_or] at opens
        simp [advance, quote_eq, toLower_eq_iff, opens]

theorem Nesting.isQuoted_advance {nesting : Nesting} (quoted : nesting.IsQuoted) (c : Char) :
    (nesting.advance c).IsQuoted := by
  intro mark open_mark
  unfold advance at open_mark
  split at open_mark
  · split at open_mark
    · cases open_mark
    · exact quoted mark open_mark
  · split at open_mark
    · rename_i opens
      obtain rfl := Option.some.inj open_mark
      rw [Bool.or_eq_true, decide_eq_true_eq, decide_eq_true_eq] at opens
      rcases opens with rfl | rfl <;> rfl
    · split at open_mark
      · exact quoted mark open_mark
      · split at open_mark <;> exact quoted mark open_mark

theorem consToken_small (token : Text) (tokens : List Text) :
    consToken token.small (tokens.map Text.small) = (consToken token tokens).map Text.small := by
  rw [consToken, isEmpty_small, consToken]
  split <;> rfl

theorem splitFrom_small {nesting : Nesting} (quoted : nesting.IsQuoted) (text : Text) :
    splitFrom nesting text.small =
      ((splitFrom nesting text).1.small, (splitFrom nesting text).2.map Text.small) := by
  induction text generalizing nesting with
  | nil => rfl
  | cons c rest ih =>
      simp only [small_cons, splitFrom, nesting.separates_toLower]
      -- The nesting after a character is the same for both, and still has no letter as its mark.
      split
      · simp [ih quoted, consToken_small]
      · simp [ih (Nesting.isQuoted_advance quoted c), Nesting.advance_toLower quoted]

theorem splitTopLevel_small (text : Text) :
    splitTopLevel text.small = (splitTopLevel text).map Text.small := by
  have quoted : ({} : Nesting).IsQuoted := by rintro mark ⟨⟩
  rw [splitTopLevel, splitTopLevel, splitFrom_small quoted, consToken_small]

theorem ofTokens_small (text : Text) : ofTokens text.small = (ofTokens text).small := by
  rw [ofTokens, ofTokens, splitTopLevel_small]
  rcases splitTopLevel text with _ | ⟨first, _ | ⟨second, tokens⟩⟩
  · simp [component_small, Value.small]
  · simp [component_small, Value.small]
  · simp [component_small, Value.small]

/-- Reading a text in small letters is reading the text, but for the case of its parts. -/
theorem parse_small (property raw : Text) :
    parse property raw.small = (parse property raw).small := by
  rw [parse, parse, trim_small, Color.parse?_small, ofTokens_small]
  split
  · cases Color.parse? (trim raw) <;> rfl
  · rfl

theorem looksNumeric_small (text : Text) : looksNumeric text.small = looksNumeric text := by
  rw [looksNumeric, looksNumeric, Numeral.splitSign_small]
  simp only [dropPrefix?_small (show ('.').isAlpha = false by decide)]
  cases dropPrefix? ['.'] (Numeral.splitSign text).2 with
  | none => exact head?_any_small isDecimal_toLower _
  | some body => exact head?_any_small isDecimal_toLower _

theorem mentionsUrl_small (text : Text) : mentionsUrl text.small = mentionsUrl text := by
  refine anywhere_small (fun rest => ?_) text
  rw [startsUrl, startsUrl, dropFolded?_small]
  cases dropFolded? "url".toList rest with
  | none => rfl
  | some after =>
      simp [trimStart_small, head?_small_eq_iff (show ('(').isAlpha = false by decide)]

end Value

end CssAudit
