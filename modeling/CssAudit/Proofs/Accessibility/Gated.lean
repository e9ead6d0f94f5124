import CssAudit.Proofs.Accessibility.Returning
import CssAudit.Proofs.Gate.Projection
import CssAudit.Proofs.Gate.Rendering
import CssAudit.Proofs.Gate.Returning
import CssAudit.Proofs.Stylesheet.Importance

/-!
# Checking what the gate lets through

Of the weights that cannot be read the gate lets through only the integers of too many
digits: figures without a place value are neither keywords nor numbers.
-/

namespace CssAudit

namespace Gate

theorem decimals_of_lower {value : Text}
    (known : ∀ c ∈ value, Value.isLengthChar c = true)
    (figures : ∀ c ∈ Text.lower value, Text.isFigure c = true) :
    ∀ c ∈ value, Text.isDecimal c = true := by
  intro c member
  have shape := known c member
  simp only [Value.isLengthChar, Value.isUnitChar, Bool.or_eq_true, decide_eq_true_eq] at shape
  have sign {d : Char} (small : d.toNat < 0x80) (same : d.toLower = d)
      (foreign : Text.isFigure d = false) : d ∉ value := by
    intro within
    rw [figures d (Text.mem_lower_of_mem small same within)] at foreign
    exact absurd foreign (by decide)
  rcases shape with (((decimal | rfl) | rfl) | rfl) | (letter | rfl)
  · exact decimal
  · exact absurd member (sign (by decide) (by decide) (by decide))
  · exact absurd member (sign (by decide) (by decide) (by decide))
  · exact absurd member (sign (by decide) (by decide) (by decide))
  · obtain ⟨d, image, foreign, free⟩ := Text.exists_mem_lowerImage letter
    rw [figures d (Text.mem_lower_of_mem_lowerImage member image free)] at foreign
    exact absurd foreign (by decide)
  · exact absurd member (sign (by decide) (by decide) (by decide))

theorem exists_letter_of_keyword {property word : Text}
    (known : Value.isWideKeyword word = true ∨ ∃ keywords,
      keywordsOf? property = some keywords ∧ listed keywords word = true) :
    ∃ c ∈ word, Text.isFigure c = false := by
  have lettered : word.any (fun c => !Text.isFigure c) = true :=
    of_keyword (fun word => word.any (fun c => !Text.isFigure c) = true)
      (by decide) (by decide) known
  simpa using List.any_eq_true.mp lettered

section Weight

variable {weight : Text} (survives : Survives (.text "font-weight".toList, .text weight)
  ("font-weight".toList, weight))
include survives

theorem Survives.weight_cases :
    (Value.isWideKeyword weight.lower = true ∨ ∃ keywords,
      keywordsOf? "font-weight".toList = some keywords ∧ listed keywords weight.lower = true) ∨
    ∀ c ∈ weight, Value.isLengthChar c = true := by
  have trimmed : Text.trim weight = weight := survives.trimmed
  have plain : ¬ takesColor "font-weight".toList = true := by decide
  have table : keywordsOf? "font-weight".toList =
      some ["normal", "bold", "bolder", "lighter"] := by decide
  have accepted := accepted_of_keywordsOf? plain table survives.admits.accepted
  rw [Value.parse_text, trimmed] at accepted
  rcases accepted with (known | wide) | ⟨text, number, unit, read⟩
  · exact .inl (.inr ⟨_, table, known⟩)
  · exact .inl (.inl wide)
  · have parsed := Value.parse_eq_length read
    rw [trimmed] at parsed
    exact .inr (Value.isLengthChar_of_length? parsed)

theorem Survives.weight_unmarked : '!' ∉ weight := by
  intro member
  rcases survives.weight_cases with known | lengths
  · have lowered : '!' ∈ Text.lower weight :=
      Text.mem_lower_of_mem (by decide) (by decide) member
    exact absurd (isNameChar_of_keyword known '!' lowered) (by decide)
  · exact absurd (lengths '!' member) (by decide)

theorem Survives.weight_decimals (figures : ∀ c ∈ Text.lower weight, Text.isFigure c = true) :
    ∀ c ∈ weight, Text.isDecimal c = true := by
  rcases survives.weight_cases with known | lengths
  · obtain ⟨c, member, foreign⟩ := exists_letter_of_keyword known
    rw [figures c member] at foreign
    exact absurd foreign (by decide)
  · exact decimals_of_lower lengths figures

theorem Survives.isUnreadable_iff :
    Typography.IsUnreadable (Text.lower (Text.trim (Stylesheet.splitImportant weight).1)) ↔
      Typography.IsOverlong weight := by
  have trimmed : Text.trim weight = weight := survives.trimmed
  rw [Stylesheet.splitImportant_of_not_mem survives.weight_unmarked, trimmed, trimmed]
  constructor
  · intro unreadable
    have decimals := survives.weight_decimals unreadable.figures
    have beyond := unreadable.beyond
    rw [Text.lower_of_decimals decimals] at beyond
    exact ⟨decimals, beyond decimals⟩
  · intro overlong
    have figures : ∀ c ∈ weight, Text.isFigure c = true := fun c member =>
      Text.isFigure_of_isDecimal (overlong.decimals c member)
    rw [Text.lower_of_decimals overlong.decimals]
    exact ⟨List.ne_nil_of_length_pos (Nat.zero_lt_of_lt overlong.long), figures,
      fun _ => overlong.long⟩

end Weight

/-- The rule block of what a validation left. -/
def Result.rule (result : Result) (context : Context) : StyleRule :=
  .ofDeclarations (Text.trim (context.selector.getD [])) result.validated

section Validated

variable {batch : Batch} {strict : Bool} {result : Result}
  (ran : validate batch strict = .ok result)
include ran

/-- What a validation left is checked as it stands. -/
theorem Result.ruleOf_eq (context : Context) :
    Check.ruleOf (Batch.ofTexts result.validated) context.selector =
      .ok (result.rule context) := by
  obtain ⟨_, survive⟩ := validated_spec ran
  exact Check.ruleOf_ofTexts (fun declaration member =>
    (name_of_allowed (survive declaration member).admits.allowed).2) context.selector

theorem Result.weight_eq_some_iff {context : Context} {raw : Text} :
    OrderedMap.get? (result.rule context).declarations "font-weight".toList = some raw ↔
      ∃ weight, ("font-weight".toList, weight) ∈ result.validated ∧
        raw = (Stylesheet.splitImportant weight).1 := by
  obtain ⟨distinct, _⟩ := validated_spec ran
  have unflagged : OrderedMap.Distinct (result.validated.map fun entry =>
      (entry.1, (Stylesheet.splitImportant entry.2).1)) := by
    simpa [OrderedMap.Distinct, List.map_map, Function.comp_def] using distinct
  have declarations := StyleRule.declarations_ofDeclarations distinct
    (Text.trim (context.selector.getD []))
  rw [Result.rule, declarations, OrderedMap.get?_eq_some_iff unflagged, List.mem_map]
  constructor
  · rintro ⟨⟨name, weight⟩, member, same⟩
    obtain ⟨rfl, rfl⟩ := Prod.mk.inj same
    exact ⟨weight, member, rfl⟩
  · rintro ⟨weight, member, rfl⟩
    exact ⟨_, member, rfl⟩

end Validated

/-- Whether the check of what a validation left comes to judge an overlong weight. -/
structure Overruns (result : Result) (context : Context) : Prop where
  compares : Rules.ComparesColors (result.rule context) context
  small : ¬ Typography.largeSize ≤ Typography.textSize (result.rule context).declarations
  weight : ∃ weight, ("font-weight".toList, weight) ∈ result.validated ∧
    Typography.IsOverlong weight

theorem stumbles_iff_overruns {batch : Batch} {strict : Bool} {result : Result}
    (ran : validate batch strict = .ok result) {context : Context} :
    Rules.Stumbles (result.rule context) context ↔ Overruns result context := by
  obtain ⟨_, survive⟩ := validated_spec ran
  constructor
  · rintro ⟨compares, small, raw, raw_eq, unreadable⟩
    obtain ⟨weight, member, rfl⟩ := (Result.weight_eq_some_iff ran).mp raw_eq
    exact ⟨compares, small, weight, member, (survive _ member).isUnreadable_iff.mp unreadable⟩
  · rintro ⟨compares, small, weight, member, overlong⟩
    exact ⟨compares, small, _, (Result.weight_eq_some_iff ran).mpr ⟨weight, member, rfl⟩,
      (survive _ member).isUnreadable_iff.mpr overlong⟩

/-- Declarations with texts as names are validated and rendered exactly if none of their
integers is too long to be written.  What the validation left is checked to the end
unless it compares two colors it understands at a weight of too many digits. -/
theorem gated_returns_iff (declarations : List (Text × Datum)) (context : Context) :
    (∀ strict, Batch.Returns (validate (Batch.ofNamed declarations) strict) ↔
        ∀ declaration ∈ declarations, Batch.IsWritable declaration.2) ∧
      (Batch.Returns (inlineStyle (Batch.ofNamed declarations)) ↔
        ∀ declaration ∈ declarations, Batch.IsWritable declaration.2) ∧
      ∀ strict result, validate (Batch.ofNamed declarations) strict = .ok result →
        (Batch.Returns (Check.declarations (Batch.ofTexts result.validated) context) ↔
          ¬ Overruns result context) := by
  refine ⟨fun strict => ?_, ?_, fun strict result ran => ?_⟩
  · rw [validate_returns_iff, Batch.readable_ofNamed_iff]
  · rw [inlineStyle_returns_iff, Batch.readable_ofNamed_iff]
  · rw [Check.declarations, Result.ruleOf_eq ran, Batch.returns_bind_iff]
    simp only [Except.ok.injEq, exists_eq_left', Batch.returns_bind_ok_iff,
      Check.blockIssues_returns_iff, stumbles_iff_overruns ran]

/-- A weight that is a keyword is checked, in any case and next to a value of no use. -/
theorem gated_returns_iff_on_keyword :
    ∃ result, validate (Batch.ofNamed [("color".toList, .text "#000".toList),
          ("Font-Weight".toList, .text " BOLD ".toList), ("width".toList, .bool true)]) false =
        .ok result ∧
      result.validated =
        [("color".toList, "#000".toList), ("font-weight".toList, "BOLD".toList)] ∧
      Batch.Returns (Check.declarations (Batch.ofTexts result.validated) {}) := by
  have ran : validate (Batch.ofNamed [("color".toList, .text "#000".toList),
        ("Font-Weight".toList, .text " BOLD ".toList), ("width".toList, .bool true)]) false =
      .ok ⟨[("color".toList, "#000".toList), ("font-weight".toList, "BOLD".toList)], [],
        [.unusableValue "width".toList "bool".toList]⟩ := rfl
  obtain ⟨_, _, checked⟩ := gated_returns_iff [("color".toList, .text "#000".toList),
    ("Font-Weight".toList, .text " BOLD ".toList), ("width".toList, .bool true)] {}
  refine ⟨_, ran, rfl, (checked false _ ran).mpr ?_⟩
  rintro ⟨-, -, weight, member, overlong⟩
  obtain rfl : weight = "BOLD".toList := by simpa using member
  exact absurd (overlong.decimals 'B' (by decide)) (by decide)

end Gate

end CssAudit
