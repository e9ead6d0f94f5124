import CssAudit.Proofs.Gate.Faults
import CssAudit.Proofs.Gate.Rendering

/-!
# The language of accepted values

The gate accepts a value by the class of its property.  Color properties take a color or a
keyword that every property knows, properties with a list of keywords take a keyword or a
length within the limits, and all other properties take any tokens without a fault.
-/

namespace CssAudit

namespace Gate

open Value (Reads WrittenLength)

theorem judgeText?_warnings {property text : Text} {known : Bool} {verdict : Verdict}
    (judged : judgeText? property text known = some verdict) : verdict.warnings = [] := by
  unfold judgeText? at judged
  split at judged
  · rw [← Option.some.inj judged]
    rfl
  · split at judged
    · rw [← Option.some.inj judged]
      rfl
    · split at judged
      · split at judged
        · rw [← Option.some.inj judged]
          rfl
        · rw [← Option.some.inj judged]
          rfl
      · exact absurd judged (by simp)

section ColorProperty

variable {property : Text} (color : takesColor property = true)
include color

theorem judgeText?_getD_warnings (text : Text) (known : Bool) (next : Verdict) :
    ((judgeText? property text known).getD next).warnings = [] := by
  obtain ⟨verdict, judged⟩ : ∃ verdict, judgeText? property text known = some verdict := by
    unfold judgeText?
    rw [if_pos color]
    split
    · exact ⟨_, rfl⟩
    split
    · exact ⟨_, rfl⟩
    split <;> exact ⟨_, rfl⟩
  rw [judged]
  exact judgeText?_warnings judged

theorem judge_warnings_of_takesColor (value : Value) : (judge property value).warnings = [] := by
  cases value with
  | single component => exact judgeText?_getD_warnings color _ _ _
  | composite text parts => exact judgeText?_getD_warnings color _ _ _

theorem judge_accepts_iff_of_takesColor {value : Value} (nonempty : value.text ≠ [])
    (silent : ¬ Value.CallsUrl value.text) :
    (judge property value).rejection = none ↔
      (∃ text literal, value = .single (.color text literal)) ∨
        Value.isWideKeyword value.text.lower = true := by
  refine ⟨fun accepted => (accepted_of_takesColor color accepted).symm, fun known => ?_⟩
  cases value with
  | single component =>
      refine judgeText?_getD_accepts_iff.mpr ⟨nonempty, silent, ?_⟩
      rw [if_pos color]
      rcases known with ⟨text, literal, shape⟩ | wide
      · obtain rfl := Value.single.inj shape
        exact .inl rfl
      · exact .inr wide
  | composite text parts =>
      refine judgeText?_getD_accepts_iff.mpr ⟨nonempty, silent, ?_⟩
      rw [if_pos color]
      rcases known with ⟨_, _, shape⟩ | wide
      · cases shape
      · exact .inr wide

end ColorProperty

/-- What is lowered to a keyword has no digit, and so does not start like a number. -/
theorem not_startsNumeric_of_keyword {property value : Text}
    (known : Value.isWideKeyword value.lower = true ∨ ∃ keywords,
      keywordsOf? property = some keywords ∧ listed keywords value.lower = true) :
    ¬ Value.StartsNumeric value := by
  rintro ⟨sign, point, digit, rest, _, _, decimal, rfl⟩
  have undigit := of_keyword (fun word => word.all (fun c => !Text.isDecimal c) = true)
    (by decide) (by decide) known
  have kept : digit ∈ Text.lower (sign ++ (point ++ digit :: rest)) :=
    Text.mem_lower_of_isDecimal decimal (by simp)
  simpa [decimal] using List.all_eq_true.mp undigit digit kept

/-- A length whose number is at most the limit and whose unit, if it has one, is listed. -/
structure WithinLimits (written : WrittenLength) : Prop where
  bounded : written.number.value.abs ≤ numberLimit
  known : written.unit = [] ∨ listed allowedUnits (Text.lower written.unit) = true

theorem withinLimits_iff {written : WrittenLength} :
    WithinLimits written ↔ ¬ numberLimit < written.number.value.abs ∧
      (Text.lower written.unit = [] ∨ listed allowedUnits (Text.lower written.unit) = true) := by
  have reads : Reads written.text _ := .length written rfl
  rw [lt_numberLimit_iff reads.isNaN_eq, not_not, Text.lower_eq_nil_iff]
  exact ⟨fun within => ⟨within.bounded, within.known⟩, fun within => ⟨within.1, within.2⟩⟩

section KeywordProperty

variable {property : Text} {keywords : List String}
  (table : keywordsOf? property = some keywords)
include table

theorem not_startsNumeric_of_listed {value : Text}
    (known : listed keywords value.lower = true ∨ Value.isWideKeyword value.lower = true) :
    ¬ Value.StartsNumeric value :=
  not_startsNumeric_of_keyword (known.symm.imp id fun known => ⟨keywords, table, known⟩)

theorem takesColor_of_keywordsOf? : takesColor property = false := by
  have plain : keywordTable.all (fun entry => !takesColor entry.1.toList) = true := by decide
  obtain ⟨entry, found, _⟩ := Option.map_eq_some_iff.mp table
  have same := List.find?_some found
  rw [← eq_of_beq same]
  simpa using List.all_eq_true.mp plain entry (List.mem_of_find?_eq_some found)

theorem judgeKeyword?_getD_warnings (text : Text) (next : Verdict) :
    ((judgeKeyword? property text).getD next).warnings = [] := by
  rw [judgeKeyword?, table, Option.map_some, Option.getD_some]
  split <;> rfl

theorem judgeKind_warnings_of_keywordsOf? (component : Value.Component) :
    (judgeKind property component).warnings = [] := by
  cases component with
  | length text number unit => exact judgeLength_warnings property text number unit
  | function text name arguments balanced => exact judgeKeyword?_getD_warnings table text _
  | keyword text => exact judgeKeyword?_getD_warnings table text _
  | color text literal => exact judgeKeyword?_getD_warnings table text _
  | unparsed text =>
      rw [judgeKind]
      split
      · rfl
      · exact judgeKeyword?_getD_warnings table text _

theorem judge_warnings_of_keywordsOf? (value : Value) : (judge property value).warnings = [] := by
  have first {text : Text} {known : Bool} {next : Verdict} (silent : next.warnings = []) :
      ((judgeText? property text known).getD next).warnings = [] := by
    cases judged : judgeText? property text known with
    | none => exact silent
    | some verdict => exact judgeText?_warnings judged
  cases value with
  | single component => exact first (judgeKind_warnings_of_keywordsOf? table component)
  | composite text parts => exact first (judgeKeyword?_getD_warnings table text _)

theorem judgeKind_accepts_iff_of_not_length {text : Text} {found : Value.Component}
    (reads : Reads text found) (other : ∀ written : WrittenLength, text ≠ written.text) :
    (judgeKind property found).rejection = none ↔
      listed keywords text.lower = true ∨ Value.isWideKeyword text.lower = true := by
  have keyword {next : Verdict} : ((judgeKeyword? property text).getD next).rejection = none ↔
      listed keywords text.lower = true ∨ Value.isWideKeyword text.lower = true := by
    rw [judgeKeyword?_getD_accepts_iff, table]
  cases reads with
  | length written shape => exact absurd shape (other written)
  | call written shape =>
      subst shape
      exact keyword
  | color literal hash parsed => exact keyword
  | keyword identifier => exact keyword
  | unparsed _ _ _ _ =>
      rw [judgeKind]
      split
      · rename_i numeric
        rw [Value.looksNumeric_iff] at numeric
        exact iff_of_false (by simp [Verdict.reject]) fun known =>
          not_startsNumeric_of_listed table known numeric
      · exact keyword

theorem judge_ofTokens_accepts_iff_of_keywordsOf? {text : Text} (nonempty : text ≠ [])
    (silent : ¬ Value.CallsUrl text) :
    (judge property (Value.ofTokens text)).rejection = none ↔
      (∃ written : WrittenLength, text = written.text ∧ WithinLimits written) ∨
        listed keywords text.lower = true ∨ Value.isWideKeyword text.lower = true := by
  have plain := takesColor_of_keywordsOf? table
  have first {known : Bool} {next : Verdict} :
      ((judgeText? property text known).getD next).rejection = none ↔
        next.rejection = none := by
    rw [judgeText?_getD_accepts_iff, plain]
    simp [nonempty, silent]
  by_cases length : ∃ written : WrittenLength, text = written.text
  · obtain ⟨written, rfl⟩ := length
    have reads : Reads written.text _ := .length written rfl
    have unknown : ¬ (listed keywords written.text.lower = true ∨
        Value.isWideKeyword written.text.lower = true) := fun known =>
      not_startsNumeric_of_listed table known (written.number.startsNumeric written.unit)
    rw [or_iff_left unknown, Value.ofTokens_length, reads.component_eq]
    refine first.trans (judgeLength_accepts_iff.trans ?_)
    rw [← withinLimits_iff]
    constructor
    · exact fun within => ⟨written, rfl, within⟩
    · rintro ⟨other, shape, within⟩
      have same := reads.unique (.length other shape)
      rw [Value.Component.length.injEq] at same
      rw [withinLimits_iff, same.2.1, same.2.2]
      exact withinLimits_iff.mp within
  · have other : ∀ written : WrittenLength, text ≠ written.text := by simpa using length
    rw [or_iff_right (fun within => length ⟨within.choose, within.choose_spec.1⟩)]
    unfold Value.ofTokens
    split
    · refine first.trans ?_
      rw [judgeKeyword?_getD_accepts_iff, table]
    · rw [judge, judgeComponent, Value.component_text]
      exact first.trans
        (judgeKind_accepts_iff_of_not_length table (Value.reads_component text) other)

end KeywordProperty

/-- The verdict on a value in normal form that is not empty and calls no URL.  A color
property accepts colors and the keywords that every property knows, and a property with a
list of keywords accepts these and lengths within the limits, both without a warning.
Every other property accepts the values whose tokens have no fault, with a warning for
each token that the gate does not understand, and refuses the others for the fault of the
first faulty token. -/
theorem judge_normal_value {property raw value : Text} (normal : sanitizeValue raw = value)
    (allowed : listed allowedProperties property = true) (nonempty : value ≠ [])
    (silent : ¬ Value.CallsUrl value) :
    (takesColor property = true →
      ((judge property (Value.parse property value)).rejection = none ↔
        (Color.parse? value).isSome = true ∨ Value.isWideKeyword value.lower = true) ∧
      (judge property (Value.parse property value)).warnings = []) ∧
    (∀ keywords, keywordsOf? property = some keywords →
      ((judge property (Value.parse property value)).rejection = none ↔
        (∃ written : WrittenLength, value = written.text ∧ WithinLimits written) ∨
          listed keywords value.lower = true ∨ Value.isWideKeyword value.lower = true) ∧
      (judge property (Value.parse property value)).warnings = []) ∧
    (isFreeForm property = true →
      ((judge property (Value.parse property value)).rejection = none ↔
        ∀ token ∈ Value.splitTopLevel value, ∀ cause, ¬ Faults property token cause) ∧
      ((judge property (Value.parse property value)).rejection = none →
        (judge property (Value.parse property value)).warnings =
          ((Value.splitTopLevel value).filter fun token => ¬ IsUnderstood token).map
            fun token => ⟨property, token⟩) ∧
      ∀ cause, (judge property (Value.parse property value)).rejection = some cause ↔
        ∃ before token after, Value.splitTopLevel value = before ++ token :: after ∧
          (∀ earlier ∈ before, ∀ other, ¬ Faults property earlier other) ∧
          Faults property token cause) := by
  have trimmed : Text.trim value = value := normal ▸ (singleSpaced_sanitizeValue raw).trim_eq
  have name_fixed := lower_eq_self_of_isNameChar (name_of_allowed allowed).2
  have text_eq : (Value.parse property value).text = value := by
    rw [Value.parse_text, trimmed]
  refine ⟨fun color => ⟨?_, judge_warnings_of_takesColor color _⟩, fun keywords table =>
    ⟨?_, judge_warnings_of_keywordsOf? table _⟩, fun free => ?_⟩
  · have colored : Value.isColorProperty property = true := by
      rwa [Value.isColorProperty, name_fixed]
    rw [judge_accepts_iff_of_takesColor color (by rwa [text_eq]) (by rwa [text_eq]),
      Value.exists_parse_eq_color_iff colored, text_eq, trimmed]
  · have plain : Value.isColorProperty property = false := by
      rw [Value.isColorProperty, name_fixed]
      exact takesColor_of_keywordsOf? table
    have tokens : Value.parse property value = Value.ofTokens value := by
      simp [Value.parse, plain, trimmed]
    rw [tokens]
    exact judge_ofTokens_accepts_iff_of_keywordsOf? table nonempty silent
  · rw [parse_of_isFreeForm allowed free, trimmed]
    exact ⟨judge_ofTokens_accepts_iff_faultless free trimmed nonempty silent,
      judge_ofTokens_warnings free trimmed nonempty silent,
      fun _ => judge_ofTokens_rejection_iff free trimmed nonempty silent⟩

/-- Of two faulty tokens the first is the cause. -/
theorem judge_normal_value_on_two_faults :
    sanitizeValue "1px  evil(2) 1.2.3".toList = "1px evil(2) 1.2.3".toList ∧
      ¬ Value.CallsUrl "1px evil(2) 1.2.3".toList ∧
      (judge "margin".toList (Value.parse "margin".toList "1px evil(2) 1.2.3".toList)).rejection =
        some (.invalidFunction "margin".toList "evil".toList) := by
  have normal : sanitizeValue "1px  evil(2) 1.2.3".toList = "1px evil(2) 1.2.3".toList := by
    decide
  have silent : ¬ Value.CallsUrl "1px evil(2) 1.2.3".toList := by
    rw [← Value.mentionsUrl_iff]
    decide
  have free : isFreeForm "margin".toList = true := by decide
  have laws := (judge_normal_value normal (by decide) (by decide) silent).2.2 free
  refine ⟨normal, silent, (laws.2.2 _).mpr ⟨["1px".toList], "evil(2)".toList,
    ["1.2.3".toList], by decide, ?_, ?_⟩⟩
  · intro earlier member other
    rw [List.mem_singleton.mp member, ← judgeKind_rejection_iff free]
    have accepted :
        (judgeKind "margin".toList (Value.component "1px".toList)).rejection = none := by
      decide +kernel
    rw [accepted]
    simp
  · rw [← judgeKind_rejection_iff free]
    decide +kernel

end Gate

end CssAudit
