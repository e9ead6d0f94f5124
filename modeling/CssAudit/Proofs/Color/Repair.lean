import CssAudit.Color.Contrast
import CssAudit.Proofs.Batch
import CssAudit.Proofs.Color.Hex

/-!
# Repaired foregrounds

A search moves the lightness of a foreground step by step and settles on the first color
that reaches the required contrast.  What it measures is the color with whole channels,
so that the color is read back from the digits in the advice as it was measured.
-/

namespace CssAudit

namespace Numeral

theorem isDigit_of_mem_placePoint {places : Nat} {text : Text}
    (digits : ∀ c ∈ text, c.isDigit = true) :
    ∀ c ∈ placePoint places text, c = '.' ∨ c.isDigit = true := by
  have padded : ∀ c ∈ text.leftpad (places + 1) '0', c.isDigit = true := by
    intro c member
    rw [List.leftpad, List.mem_append, List.mem_replicate] at member
    rcases member with ⟨_, rfl⟩ | member
    · rfl
    · exact digits c member
  intro c member
  simp only [placePoint] at member
  split at member
  · exact .inr (padded c (List.mem_of_mem_take member))
  · rw [List.mem_append, List.mem_cons] at member
    rcases member with member | rfl | member
    · exact .inr (padded c (List.mem_of_mem_take member))
    · exact .inl rfl
    · exact .inr (padded c (List.mem_of_mem_drop member))

theorem sign_not_mem_fixedText (places : Nat) (x : Float) : '#' ∉ fixedText places x := by
  intro member
  unfold fixedText at member
  split at member
  · unfold specialText at member
    revert member
    split
    · decide
    · split <;> decide
  · rename_i value _
    rw [List.mem_append] at member
    rcases member with negative | member
    · revert negative
      split <;> decide
    · have digits : ∀ c ∈ Text.ofNat (roundDiv (value.numerator * Nat.pow 10 places)
          value.denominator), c.isDigit = true := fun c member =>
        Nat.isDigit_of_mem_toDigits (by decide) (by decide) member
      rcases isDigit_of_mem_placePoint digits '#' member with point | digit
      · exact absurd point (by decide)
      · exact absurd digit (by decide)

end Numeral

namespace Color

/-- The colors that a search tries, in order. -/
def candidates (step : Float) : Nat → Hsl → List Color
  | 0, _ => []
  | steps + 1, hsl =>
      let lightness := hsl.lightness + step
      if 0 ≤ lightness && lightness ≤ 1 then
        let next := { hsl with lightness }
        match next.toColor with
        | .ok candidate => candidate :: candidates step steps next
        | .error _ => []
      else
        []

theorem searchLightness_eq_find? (background : Color) (required step : Float) (steps : Nat)
    (hsl : Hsl) :
    searchLightness background required step steps hsl =
      (candidates step steps hsl).find? fun candidate =>
        required ≤ contrast candidate background := by
  induction steps generalizing hsl with
  | zero => rfl
  | succ steps ih =>
      rw [searchLightness, candidates]
      dsimp only
      split
      · cases Hsl.toColor { hsl with lightness := hsl.lightness + step } with
        | error cause => rfl
        | ok candidate =>
            by_cases reaches : required ≤ contrast candidate background
            · simp [reaches]
            · simp [reaches, ih]
      · rfl

theorem opacity_of_ofNumbers {red green blue : Int} {color : Color}
    (made : ofNumbers red green blue none = .ok color) : color.opacity = none := by
  obtain ⟨_, _, made⟩ := Batch.bind_eq_ok_iff.mp made
  obtain ⟨_, _, made⟩ := Batch.bind_eq_ok_iff.mp made
  obtain ⟨_, _, made⟩ := Batch.bind_eq_ok_iff.mp made
  obtain rfl := Except.ok.inj made
  rfl

theorem opacity_of_toColor {hsl : Hsl} {color : Color} (made : hsl.toColor = .ok color) :
    color.opacity = none := by
  obtain ⟨_, _, made⟩ := Batch.bind_eq_ok_iff.mp made
  obtain ⟨_, _, made⟩ := Batch.bind_eq_ok_iff.mp made
  obtain ⟨_, _, made⟩ := Batch.bind_eq_ok_iff.mp made
  exact opacity_of_ofNumbers made

theorem opacity_of_mem_candidates {step : Float} {steps : Nat} {hsl : Hsl} :
    ∀ candidate ∈ candidates step steps hsl, candidate.opacity = none := by
  induction steps generalizing hsl with
  | zero => exact List.forall_mem_nil _
  | succ steps ih =>
      rw [candidates]
      dsimp only
      split
      · cases made : Hsl.toColor { hsl with lightness := hsl.lightness + step } with
        | error cause => exact List.forall_mem_nil _
        | ok candidate => exact List.forall_mem_cons.mpr ⟨opacity_of_toColor made, ih⟩
      · exact List.forall_mem_nil _

/-- The foregrounds that are tried in place of one on a background. -/
def replacements (foreground background : Color) : List Color :=
  candidates (if luminance foreground ≤ luminance background then -0.02 else 0.02) repairSteps
    (.ofColor foreground)

/-- A literal of six hexadecimal digits that a text names. -/
structure Names (text literal : Text) : Prop where
  occurs : literal <:+: text
  shape : ∃ digits, literal = '#' :: digits ∧ digits.length = 6 ∧
    ∀ c ∈ digits, (Text.hexValue? c).isSome = true

theorem names_hex_iff {before after : Text} (first : '#' ∉ before) (last : '#' ∉ after)
    (color : Color) (literal : Text) :
    Names (before ++ color.hex ++ after) literal ↔ literal = color.hex := by
  have signless : '#' ∉ color.digits.map Nat.digitChar := by
    intro member
    obtain ⟨digit, digit_mem, same⟩ := List.mem_map.mp member
    have codes := Text.toNat_digitChar (digits_lt digit digit_mem)
    rw [same] at codes
    exact absurd codes (by decide)
  rw [hex_eq]
  constructor
  · rintro ⟨⟨opening, closing, whole⟩, digits, rfl, six, -⟩
    have whole : opening ++ '#' :: (digits ++ closing) =
        before ++ '#' :: (color.digits.map Nat.digitChar ++ after) := by simpa using whole
    -- There is one sign in all, so both texts are cut at the same place.
    have unopened : '#' ∉ opening := by
      have once := congrArg (List.count '#') whole
      simp only [List.count_append, List.count_cons_self, List.count_eq_zero.mpr first,
        List.count_eq_zero.mpr last, List.count_eq_zero.mpr signless] at once
      rw [← List.count_eq_zero]
      omega
    have cut := Text.cutAt_eq_some_iff.mpr ⟨whole.symm, unopened⟩
    rw [Text.cutAt_eq_some_iff.mpr ⟨rfl, first⟩, Option.some.injEq, Prod.mk.injEq] at cut
    rw [List.append_inj_left cut.2 (by simp [six, Color.digits])]
  · rintro rfl
    refine ⟨⟨before, after, rfl⟩, _, rfl, by simp [digits], ?_⟩
    intro c member
    obtain ⟨digit, digit_mem, rfl⟩ := List.mem_map.mp member
    rw [Text.hexValue?_digitChar (digits_lt digit digit_mem), Option.isSome_some]

theorem not_names_of_not_mem {text literal : Text} (absent : '#' ∉ text) :
    ¬ Names text literal := by
  rintro ⟨occurs, digits, rfl, -⟩
  exact absent (occurs.subset List.mem_cons_self)

theorem names_message_iff {advice : Repair} {literal : Text} :
    Names advice.message literal ↔
      ∃ darker color ratio, advice = .foreground darker color ratio ∧ literal = color.hex := by
  cases advice with
  | side darker =>
      have absent : '#' ∉ (Repair.side darker).message := by
        cases darker with
        | true => exact (by decide : '#' ∉
            "Try using a darker foreground color or lighter background.".toList)
        | false => exact (by decide : '#' ∉
            "Try using a lighter foreground color or darker background.".toList)
      simpa using not_names_of_not_mem absent
  | foreground darker color ratio =>
      have first : '#' ∉ "Try a ".toList ++
          (if darker then "darker".toList else "lighter".toList) ++
          " foreground such as ".toList := by cases darker <;> simp
      have last : '#' ∉ " (".toList ++ Numeral.fixedText 2 ratio ++ ":1).".toList := by
        have inner := Numeral.sign_not_mem_fixedText 2 ratio
        simp [inner]
      have shape : (Repair.foreground darker color ratio).message =
          "Try a ".toList ++ (if darker then "darker".toList else "lighter".toList) ++
            " foreground such as ".toList ++ color.hex ++ " (".toList ++
            Numeral.fixedText 2 ratio ++ ":1).".toList := rfl
      have parts := names_hex_iff first last color literal
      rw [← List.append_assoc, ← List.append_assoc] at parts
      rw [shape, parts]
      simp

example : Names (Repair.foreground true ⟨0, 64, 255, none⟩ 5).message "#0040ff".toList :=
  names_message_iff.mpr ⟨true, _, _, rfl, rfl⟩

section Repair

variable {foreground background : Color} {required : Float}

theorem repair_names_iff {literal : Text} :
    Names (foreground.repair background required).message literal ↔
      ∃ color, (replacements foreground background).find?
        (fun candidate => required ≤ contrast candidate background) = some color ∧
        literal = color.hex := by
  have searched : searchLightness background required
      (if luminance foreground ≤ luminance background then -0.02 else 0.02) repairSteps
        (.ofColor foreground) =
      (replacements foreground background).find? fun candidate =>
        required ≤ contrast candidate background := searchLightness_eq_find? ..
  rw [names_message_iff, repair]
  simp only [decide_eq_true_eq, searched]
  cases (replacements foreground background).find? fun candidate =>
    required ≤ contrast candidate background with
  | none => simp
  | some color => simp

/-- The color that an advice names reaches the required contrast once it is read back. -/
theorem parse?_of_repair_names {literal : Text}
    (named : Names (foreground.repair background required).message literal) :
    ∃ color, parse? literal = some color ∧ required ≤ contrast color background := by
  obtain ⟨color, found, rfl⟩ := repair_names_iff.mp named
  have solid := opacity_of_mem_candidates color (List.mem_of_find?_eq_some found)
  have reaches := List.find?_some found
  exact ⟨color, parse?_hex solid, by simpa using reaches⟩

/-- An advice names a color exactly if one of those tried reaches the required contrast. -/
theorem exists_repair_names_iff :
    (∃ literal, Names (foreground.repair background required).message literal) ↔
      ∃ candidate ∈ replacements foreground background,
        required ≤ contrast candidate background := by
  have found : (∃ literal, Names (foreground.repair background required).message literal) ↔
      ((replacements foreground background).find? fun candidate =>
        required ≤ contrast candidate background).isSome = true := by
    simp only [repair_names_iff, Option.isSome_iff_exists]
    exact ⟨fun ⟨_, color, found, _⟩ => ⟨color, found⟩, fun ⟨color, found⟩ => ⟨_, color, found, rfl⟩⟩
  rw [found, List.find?_isSome]
  simp

end Repair

end Color

end CssAudit
