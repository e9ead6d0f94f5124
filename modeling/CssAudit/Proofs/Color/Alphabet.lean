import CssAudit.Color.Literal
import CssAudit.Proofs.Text.Lowering
import CssAudit.Proofs.Text.Trim
import Mathlib.Data.List.TakeWhile

/-!
# The alphabet of color literals

A reader of a part of a literal passes over characters of a small alphabet only,
so a text that is read to its end as a color has no others.  In particular a color
literal holds no quotation marks, angle brackets, semicolons or slashes.
-/

namespace CssAudit

namespace Color

/-- The marks that a color literal may hold. -/
def literalMarks : Text :=
  "#(),.%-".toList

/-- Whether a color literal in lower case may hold a character. -/
def isLiteralChar (c : Char) : Bool :=
  Text.isBlank c || Text.isDecimal c || c.isAlpha || literalMarks.contains c

/-- A reader passes from a text to a rest over characters of the alphabet only. -/
def Passes (text rest : Text) : Prop :=
  ∀ c ∈ text, isLiteralChar c = true ∨ c ∈ rest

theorem Passes.refl (text : Text) : Passes text text :=
  fun _ member => .inr member

theorem Passes.trans {text middle rest : Text} (first : Passes text middle)
    (second : Passes middle rest) : Passes text rest := by
  intro c member
  rcases first c member with known | later
  · exact .inl known
  · exact second c later

theorem Passes.all_of_nil {text : Text} (passes : Passes text []) :
    ∀ c ∈ text, isLiteralChar c = true := by
  intro c member
  rcases passes c member with known | none
  · exact known
  · exact absurd none List.not_mem_nil

theorem passes_append (start : Text) (known : ∀ c ∈ start, isLiteralChar c = true)
    (rest : Text) : Passes (start ++ rest) rest := by
  intro c member
  rcases List.mem_append.mp member with inStart | inRest
  · exact .inl (known c inStart)
  · exact .inr inRest

theorem passes_literal (start : Text) (known : start.all isLiteralChar = true)
    (rest : Text) : Passes (start ++ rest) rest :=
  passes_append start (List.all_eq_true.mp known) rest

theorem passes_dropWhile {test : Char → Bool}
    (known : ∀ c, test c = true → isLiteralChar c = true) (text : Text) :
    Passes text (text.dropWhile test) := by
  have split : text.takeWhile test ++ text.dropWhile test = text :=
    List.takeWhile_append_dropWhile
  have start : ∀ c ∈ text.takeWhile test, isLiteralChar c = true := fun c member =>
    known c (List.mem_takeWhile_imp member)
  have passes := passes_append _ start (text.dropWhile test)
  rwa [split] at passes

theorem passes_trimStart (text : Text) : Passes text (Text.trimStart text) :=
  passes_dropWhile (fun c blank => by simp [isLiteralChar, blank]) text

theorem passes_decimals (text : Text) : Passes text (text.span Text.isDecimal).2 := by
  rw [List.span_eq_takeWhile_dropWhile]
  exact passes_dropWhile (fun c digit => by simp [isLiteralChar, digit]) text

theorem passes_dropPrefix? {pattern text rest : Text}
    (known : pattern.all isLiteralChar = true)
    (dropped : Text.dropPrefix? pattern text = some rest) : Passes text rest := by
  rw [Text.dropPrefix?_eq_some_iff.mp dropped]
  exact passes_literal pattern known rest

theorem passes_dropPrefix?_getD (pattern : Text)
    (known : pattern.all isLiteralChar = true) (text : Text) :
    Passes text ((Text.dropPrefix? pattern text).getD text) := by
  cases dropped : Text.dropPrefix? pattern text with
  | none => exact .refl text
  | some rest => exact passes_dropPrefix? known dropped

theorem passes_dropOpening? {name text rest : Text}
    (known : name.all isLiteralChar = true)
    (dropped : dropOpening? name text = some rest) : Passes text rest := by
  obtain ⟨after, named, opened⟩ := Option.bind_eq_some_iff.mp dropped
  exact ((passes_dropPrefix? known named).trans
    (passes_dropPrefix?_getD ['a'] (by decide) after)).trans
      (passes_dropPrefix? (by decide) opened)

theorem passes_dropComma? {text rest : Text} (dropped : dropComma? text = some rest) :
    Passes text rest := by
  obtain ⟨after, comma, rfl⟩ := Option.map_eq_some_iff.mp dropped
  exact ((passes_trimStart text).trans (passes_dropPrefix? (by decide) comma)).trans
    (passes_trimStart after)

theorem passes_isClosing {text : Text} (closing : isClosing text = true) :
    Passes text [] := by
  have shape : Text.trimStart text = [')'] := by simpa [isClosing] using closing
  have passes := passes_trimStart text
  rw [shape] at passes
  exact passes.trans (passes_literal [')'] (by decide) [])

theorem passes_channelNumber? {text rest : Text} {value : Nat}
    (read : channelNumber? text = some (value, rest)) : Passes text rest := by
  have passes := passes_decimals text
  unfold channelNumber? at read
  split at read
  rename_i digits after spanned
  rw [spanned] at passes
  split at read
  · simp only [Option.some.injEq, Prod.mk.injEq] at read
    rwa [read.2] at passes
  · exact absurd read (by simp)

theorem passes_quantity? {text rest : Text} {value : Float}
    (read : quantity? text = some (value, rest)) : Passes text rest := by
  have whole_passes := passes_decimals text
  unfold quantity? at read
  split at read
  rename_i whole after spanned
  rw [spanned] at whole_passes
  split at read
  rename_i fraction later fraction_eq
  have later_passes : Passes after later := by
    split at fraction_eq
    · rename_i afterPoint
      have passes := passes_decimals afterPoint
      rw [fraction_eq] at passes
      exact (passes_literal ['.'] (by decide) afterPoint).trans passes
    · rw [Prod.mk.injEq] at fraction_eq
      rw [fraction_eq.2]
      exact .refl later
  split at read
  · simp only [Option.some.injEq, Prod.mk.injEq] at read
    rw [← read.2]
    exact whole_passes.trans later_passes
  · split at read
    · simp only [Option.some.injEq, Prod.mk.injEq] at read
      rw [← read.2]
      exact whole_passes
    · exact absurd read (by simp)

theorem passes_percentage? {text rest : Text} {value : Float}
    (read : percentage? text = some (value, rest)) : Passes text rest := by
  obtain ⟨⟨amount, after⟩, amount_eq, dropped⟩ := Option.bind_eq_some_iff.mp read
  obtain ⟨later, mark, shape⟩ := Option.bind_eq_some_iff.mp dropped
  simp only [Option.some.injEq, Prod.mk.injEq] at shape
  rw [← shape.2]
  exact (passes_quantity? amount_eq).trans (passes_dropPrefix? (by decide) mark)

theorem passes_opacityToEnd? {text : Text} {opacity : Option Number}
    (read : opacityToEnd? text = some opacity) : Passes text [] := by
  unfold opacityToEnd? at read
  split at read
  · rename_i closing
    exact passes_isClosing closing
  · obtain ⟨after, comma, read⟩ := Option.bind_eq_some_iff.mp read
    obtain ⟨⟨value, later⟩, value_eq, read⟩ := Option.bind_eq_some_iff.mp read
    have start := (passes_dropComma? comma).trans (passes_quantity? value_eq)
    dsimp only at read
    split at read
    · rename_i last mark
      split at read
      · rename_i closing
        exact (start.trans (passes_dropPrefix? (by decide) mark)).trans
          (passes_isClosing closing)
      · exact absurd read (by simp)
    · split at read
      · rename_i closing
        exact start.trans (passes_isClosing closing)
      · exact absurd read (by simp)

theorem passes_ofRgb? {text : Text} {color : Color} (read : ofRgb? text = some color) :
    Passes text [] := by
  obtain ⟨opened, opening, read⟩ := Option.bind_eq_some_iff.mp read
  obtain ⟨⟨red, afterRed⟩, red_eq, read⟩ := Option.bind_eq_some_iff.mp read
  obtain ⟨beforeGreen, firstComma, read⟩ := Option.bind_eq_some_iff.mp read
  obtain ⟨⟨green, afterGreen⟩, green_eq, read⟩ := Option.bind_eq_some_iff.mp read
  obtain ⟨beforeBlue, secondComma, read⟩ := Option.bind_eq_some_iff.mp read
  obtain ⟨⟨blue, afterBlue⟩, blue_eq, read⟩ := Option.bind_eq_some_iff.mp read
  obtain ⟨opacity, opacity_eq, _⟩ := Option.bind_eq_some_iff.mp read
  have toRed := ((passes_dropOpening? (by decide) opening).trans (passes_trimStart opened)).trans
    (passes_channelNumber? red_eq)
  have toGreen := (passes_dropComma? firstComma).trans (passes_channelNumber? green_eq)
  have toBlue := (passes_dropComma? secondComma).trans (passes_channelNumber? blue_eq)
  exact ((toRed.trans toGreen).trans toBlue).trans (passes_opacityToEnd? opacity_eq)

private theorem passes_hue {unsigned : Text} {color : Color}
    (result : Float × Text → Float × Text → Float × Text → Option Number → Option Color)
    (read : (do
      let degrees ← quantity? unsigned
      let unit := (Text.dropPrefix? "deg".toList degrees.2).getD degrees.2
      let saturation ← percentage? (← dropComma? unit)
      let lightness ← percentage? (← dropComma? saturation.2)
      let opacity ← opacityToEnd? lightness.2
      result degrees saturation lightness opacity) = some color) :
    Passes unsigned [] := by
  obtain ⟨⟨degrees, afterDegrees⟩, degrees_eq, read⟩ := Option.bind_eq_some_iff.mp read
  obtain ⟨beforeSaturation, firstComma, read⟩ := Option.bind_eq_some_iff.mp read
  obtain ⟨⟨saturation, afterSaturation⟩, saturation_eq, read⟩ := Option.bind_eq_some_iff.mp read
  obtain ⟨beforeLightness, secondComma, read⟩ := Option.bind_eq_some_iff.mp read
  obtain ⟨⟨lightness, afterLightness⟩, lightness_eq, read⟩ := Option.bind_eq_some_iff.mp read
  obtain ⟨opacity, opacity_eq, _⟩ := Option.bind_eq_some_iff.mp read
  have toUnit := (passes_quantity? degrees_eq).trans
    (passes_dropPrefix?_getD "deg".toList (by decide) afterDegrees)
  have toSaturation := (passes_dropComma? firstComma).trans (passes_percentage? saturation_eq)
  have toLightness := (passes_dropComma? secondComma).trans (passes_percentage? lightness_eq)
  exact ((toUnit.trans toSaturation).trans toLightness).trans (passes_opacityToEnd? opacity_eq)

theorem passes_ofHsl? {text : Text} {color : Color} (read : ofHsl? text = some color) :
    Passes text [] := by
  obtain ⟨opened, opening, read⟩ := Option.bind_eq_some_iff.mp read
  have start := (passes_dropOpening? (by decide) opening).trans (passes_trimStart opened)
  dsimp only at read
  split at read
  · rename_i after shape
    rw [shape] at start
    have sign := passes_literal ['-'] (by decide) after
    exact (start.trans sign).trans (passes_hue _ read)
  · exact start.trans (passes_hue _ read)

theorem isLiteralChar_of_isDigit {c : Char} (digit : c.isDigit = true) :
    isLiteralChar c = true := by
  have bounds := Text.isDigit_iff.mp digit
  have small : c.toNat < 0x80 := by omega
  simp [isLiteralChar, Text.isDecimal, Text.digitValue?, small, digit]

theorem isLiteralChar_of_hexValue? {c : Char} {value : Nat}
    (read : Text.hexValue? c = some value) : isLiteralChar c = true := by
  unfold Text.hexValue? at read
  split at read
  · rename_i digit
    exact isLiteralChar_of_isDigit digit
  · suffices letter : c.isUpper = true ∨ c.isLower = true by
      have alpha : c.isAlpha = true := Bool.or_eq_true_iff.mpr letter
      simp [isLiteralChar, alpha]
    simp only [Bool.and_eq_true, decide_eq_true_eq] at read
    split at read
    · rename_i bounds
      exact .inr (Text.isLower_iff.mpr
        ⟨bounds.1, UInt32.le_trans bounds.2 (show (102 : UInt32) ≤ 122 by decide)⟩)
    · split at read
      · rename_i bounds
        exact .inl (Text.isUpper_iff.mpr
          ⟨bounds.1, UInt32.le_trans bounds.2 (show (70 : UInt32) ≤ 90 by decide)⟩)
      · exact absurd read (by simp)

theorem isSome_hexValue?_of_mapM {text : Text} {digits : List Nat}
    (read : text.mapM Text.hexValue? = some digits) :
    ∀ c ∈ text, (Text.hexValue? c).isSome = true := by
  induction text generalizing digits with
  | nil => simp
  | cons c text ih =>
      rw [List.mapM_cons] at read
      obtain ⟨value, value_eq, read⟩ := Option.bind_eq_some_iff.mp read
      obtain ⟨rest, rest_eq, _⟩ := Option.bind_eq_some_iff.mp read
      exact List.forall_mem_cons.mpr ⟨by rw [value_eq]; rfl, ih rest_eq⟩

theorem isLiteralChar_of_mapM_hexValue? {text : Text} {digits : List Nat}
    (read : text.mapM Text.hexValue? = some digits) : ∀ c ∈ text, isLiteralChar c = true := by
  intro c member
  obtain ⟨value, value_eq⟩ := Option.isSome_iff_exists.mp (isSome_hexValue?_of_mapM read c member)
  exact isLiteralChar_of_hexValue? value_eq

theorem passes_ofHex? {text : Text} {color : Color} (read : ofHex? text = some color) :
    Passes text [] := by
  obtain ⟨digits, digits_eq, _⟩ := Option.bind_eq_some_iff.mp read
  have start := passes_dropPrefix?_getD ['#'] (by decide) text
  have passes := passes_append _ (isLiteralChar_of_mapM_hexValue? digits_eq) []
  rw [List.append_nil] at passes
  exact start.trans passes

theorem passes_ofName? {text : Text} {color : Color} (read : ofName? text = some color) :
    Passes text [] := by
  intro c member
  refine .inl ?_
  unfold ofName? at read
  split at read
  · rename_i shape
    rw [shape] at member
    exact List.all_eq_true.mp (by decide) c member
  · obtain ⟨entry, found, _⟩ := Option.map_eq_some_iff.mp read
    have known : ∀ entry ∈ names, entry.1.toList.all isLiteralChar = true := by decide
    have same : entry.1.toList = text := by simpa using List.find?_some found
    exact List.all_eq_true.mp (known entry (List.mem_of_find?_eq_some found)) c
      (same ▸ member)

/-- The lower-case form of a color literal keeps to the alphabet. -/
theorem isLiteralChar_of_parse? {literal : Text} {color : Color}
    (read : parse? literal = some color) :
    ∀ c ∈ Text.lower (Text.trim literal), isLiteralChar c = true := by
  apply Passes.all_of_nil
  unfold parse? at read
  simp only [Option.or_eq_some_iff] at read
  rcases read with name | ⟨_, hex | ⟨_, rgb | ⟨_, hsl⟩⟩⟩
  · exact passes_ofName? name
  · exact passes_ofHex? hex
  · exact passes_ofRgb? rgb
  · exact passes_ofHsl? hsl

/-- A character of ASCII that is no capital letter and not of the alphabet stands in
no color literal. -/
theorem not_mem_of_parse? {literal : Text} {color : Color}
    (read : parse? literal = some color) {c : Char} (small : c.toNat < 0x80)
    (same : c.toLower = c) (foreign : isLiteralChar c = false) : c ∉ literal := by
  intro member
  have solid : Text.isBlank c = false := by
    cases blank : Text.isBlank c with
    | false => rfl
    | true => simp [isLiteralChar, blank] at foreign
  have kept := Text.mem_lower_of_mem small same ((Text.mem_trim solid).mpr member)
  have known := isLiteralChar_of_parse? read c kept
  rw [foreign] at known
  exact absurd known (by decide)

end Color

end CssAudit
