import CssAudit.Gate.Verdict
import CssAudit.Proofs.Color.Alphabet
import CssAudit.Proofs.Value.Tokens
import CssAudit.Proofs.Value.Url

/-!
# Which values the gate accepts

The rules are tried in order, so acceptance is first of all a matter of the class
of the property.  Properties of colors and those with a list of keywords accept
color literals, keywords and lengths only; every other property is free in form
and accepts a value exactly if it calls no URL and each of its top-level tokens is
harmless.  Every rejection of a value is a matter of its form.
-/

namespace CssAudit

namespace Gate

/-- Whether a rejection of a verdict, if there is one, is a matter of form. -/
def Verdict.IsSchematic (verdict : Verdict) : Prop :=
  ∀ cause, verdict.rejection = some cause → cause.kind = .schema

theorem isSchematic_reject {cause : Rejection} (schema : cause.kind = .schema) :
    (Verdict.reject cause).IsSchematic := by
  intro other refused
  obtain rfl : cause = other := by simpa [Verdict.reject] using refused
  exact schema

/-- A verdict of a single rule: a value is accepted, refused for its form, or doubted. -/
inductive Verdict.IsElementary : Verdict → Prop
  | accept : IsElementary .accept
  | reject {cause : Rejection} : cause.kind = .schema → IsElementary (.reject cause)
  | doubt (warning : Warning) : IsElementary (.doubt warning)

theorem Verdict.IsElementary.isSchematic {verdict : Verdict}
    (elementary : verdict.IsElementary) : verdict.IsSchematic := by
  cases elementary with
  | accept => exact fun _ refused => absurd refused (by simp [Verdict.accept])
  | reject schema => exact isSchematic_reject schema
  | doubt warning => exact fun _ refused => absurd refused (by simp [Verdict.doubt])

/-- A single rule that refuses a value does not warn about it. -/
theorem Verdict.IsElementary.warnings_of_refused {verdict : Verdict}
    (elementary : verdict.IsElementary) (refused : verdict.rejection ≠ none) :
    verdict.warnings = [] := by
  cases elementary with
  | accept => rfl
  | reject _ => rfl
  | doubt warning => exact absurd rfl refused

theorem isElementary_judgeText? {property text : Text} {known : Bool} {verdict : Verdict}
    (judged : judgeText? property text known = some verdict) : verdict.IsElementary := by
  unfold judgeText? at judged
  split at judged
  · rw [← Option.some.inj judged]
    exact .reject rfl
  · split at judged
    · rw [← Option.some.inj judged]
      exact .reject rfl
    · split at judged
      · split at judged
        · rw [← Option.some.inj judged]
          exact .accept
        · rw [← Option.some.inj judged]
          exact .reject rfl
      · exact absurd judged (by simp)

theorem isElementary_judgeKeyword? {property text : Text} {verdict : Verdict}
    (judged : judgeKeyword? property text = some verdict) : verdict.IsElementary := by
  obtain ⟨keywords, _, rfl⟩ := Option.map_eq_some_iff.mp judged
  split
  · exact .accept
  · exact .reject rfl

private theorem getD_of_forall {holds : Verdict → Prop} {first : Option Verdict}
    {next : Verdict} (of_first : ∀ verdict, first = some verdict → holds verdict)
    (of_next : holds next) : holds (first.getD next) := by
  cases first with
  | none => exact of_next
  | some verdict => exact of_first verdict rfl

theorem isElementary_judgeKind (property : Text) (component : Value.Component) :
    (judgeKind property component).IsElementary := by
  cases component with
  | keyword text =>
      refine getD_of_forall (fun _ => isElementary_judgeKeyword?) ?_
      split
      · exact .accept
      · exact .doubt _
  | color text color =>
      exact getD_of_forall (fun _ => isElementary_judgeKeyword?) .accept
  | length text number unit =>
      simp only [judgeKind, judgeLength]
      split
      · exact .reject rfl
      · split
        · exact .reject rfl
        · exact .accept
  | function text name arguments balanced =>
      refine getD_of_forall (fun _ => isElementary_judgeKeyword?) ?_
      unfold judgeFunction
      split
      · exact .reject rfl
      · split
        · exact .reject rfl
        · exact .accept
  | unparsed text =>
      simp only [judgeKind]
      split
      · exact .reject rfl
      · exact getD_of_forall (fun _ => isElementary_judgeKeyword?) (.doubt _)

theorem isElementary_judgeComponent (property : Text) (component : Value.Component) :
    (judgeComponent property component).IsElementary :=
  getD_of_forall (fun _ => isElementary_judgeText?) (isElementary_judgeKind property component)

theorem isSchematic_judgeParts (property : Text) (parts : List Value.Component) :
    (judgeParts property parts).IsSchematic := by
  induction parts with
  | nil => exact Verdict.IsElementary.accept.isSchematic
  | cons part parts ih =>
      intro cause refused
      rw [judgeParts, Verdict.andThen] at refused
      split at refused
      · exact (isElementary_judgeComponent property part).isSchematic cause refused
      · exact ih cause refused

/-- No value is refused for security once the batch holds no danger. -/
theorem isSchematic_judge (property : Text) (value : Value) :
    (judge property value).IsSchematic := by
  cases value with
  | single component => exact (isElementary_judgeComponent property component).isSchematic
  | composite text parts =>
      exact getD_of_forall (fun _ judged => (isElementary_judgeText? judged).isSchematic)
        (getD_of_forall (fun _ judged => (isElementary_judgeKeyword? judged).isSchematic)
          (isSchematic_judgeParts property parts))

/-- The first rules accept a text of a color property or leave it to later rules. -/
theorem judgeText?_getD_accepts_iff {property text : Text} {known : Bool} {next : Verdict} :
    ((judgeText? property text known).getD next).rejection = none ↔
      text ≠ [] ∧ ¬ Value.CallsUrl text ∧
        if takesColor property = true then
          known = true ∨ Value.isWideKeyword text.lower = true
        else next.rejection = none := by
  rw [← Value.mentionsUrl_iff]
  unfold judgeText?
  by_cases empty : text = []
  · simp [empty, Verdict.reject]
  · by_cases calls : Value.mentionsUrl text = true
    · simp [empty, calls, Verdict.reject]
    · by_cases color : takesColor property = true
      · by_cases accepted : known = true ∨ Value.isWideKeyword text.lower = true
        · simp [empty, calls, color, accepted, Verdict.accept]
        · simp [empty, calls, color, accepted, Verdict.reject]
      · simp [empty, calls, color]

theorem judgeKeyword?_getD_accepts_iff {property text : Text} {next : Verdict} :
    ((judgeKeyword? property text).getD next).rejection = none ↔
      match keywordsOf? property with
      | some keywords =>
          listed keywords text.lower = true ∨ Value.isWideKeyword text.lower = true
      | none => next.rejection = none := by
  unfold judgeKeyword?
  cases keywordsOf? property with
  | none => simp
  | some keywords =>
      by_cases accepted :
          listed keywords text.lower = true ∨ Value.isWideKeyword text.lower = true
      · simp [accepted, Verdict.accept]
      · simp [accepted, Verdict.reject]

theorem text_of_accepted {property : Text} {value : Value}
    (accepted : (judge property value).rejection = none) :
    value.text ≠ [] ∧ ¬ Value.CallsUrl value.text := by
  cases value with
  | single component =>
      obtain ⟨nonempty, silent, _⟩ := judgeText?_getD_accepts_iff.mp accepted
      exact ⟨nonempty, silent⟩
  | composite text parts =>
      obtain ⟨nonempty, silent, _⟩ := judgeText?_getD_accepts_iff.mp accepted
      exact ⟨nonempty, silent⟩

/-- Whether a property takes neither colors nor a list of keywords, and so any value
in which the gate finds no fault. -/
def isFreeForm (property : Text) : Bool :=
  !takesColor property && (keywordsOf? property).isNone

theorem class_of_not_isFreeForm {property : Text} (bound : isFreeForm property = false) :
    takesColor property = true ∨
      ¬ takesColor property = true ∧ ∃ keywords, keywordsOf? property = some keywords := by
  by_cases color : takesColor property = true
  · exact .inl color
  · rw [← Option.isSome_iff_exists]
    exact .inr ⟨color, by simpa [isFreeForm, color] using bound⟩

theorem accepted_of_takesColor {property : Text} {value : Value}
    (color : takesColor property = true)
    (accepted : (judge property value).rejection = none) :
    Value.isWideKeyword value.text.lower = true ∨
      ∃ text literal, value = .single (.color text literal) := by
  cases value with
  | single component =>
      obtain ⟨_, _, known⟩ := judgeText?_getD_accepts_iff.mp accepted
      rw [if_pos color] at known
      rcases known with known | wide
      · cases component with
        | color text literal => exact .inr ⟨text, literal, rfl⟩
        | _ => exact absurd known (by simp [isColor])
      · exact .inl wide
  | composite text parts =>
      obtain ⟨_, _, known⟩ := judgeText?_getD_accepts_iff.mp accepted
      rw [if_pos color] at known
      exact .inl (known.resolve_left (by simp))

theorem accepted_of_keywordsOf? {property : Text} {keywords : List String} {value : Value}
    (plain : ¬ takesColor property = true) (table : keywordsOf? property = some keywords)
    (accepted : (judge property value).rejection = none) :
    (listed keywords value.text.lower = true ∨
        Value.isWideKeyword value.text.lower = true) ∨
      ∃ text number unit, value = .single (.length text number unit) := by
  have word {text : Text} {next : Verdict}
      (known : ((judgeKeyword? property text).getD next).rejection = none) :
      listed keywords text.lower = true ∨ Value.isWideKeyword text.lower = true := by
    rw [judgeKeyword?_getD_accepts_iff, table] at known
    exact known
  cases value with
  | composite text parts =>
      obtain ⟨_, _, known⟩ := judgeText?_getD_accepts_iff.mp accepted
      rw [if_neg plain] at known
      exact .inl (word known)
  | single component =>
      obtain ⟨_, _, known⟩ := judgeText?_getD_accepts_iff.mp accepted
      rw [if_neg plain] at known
      cases component with
      | length text number unit => exact .inr ⟨text, number, unit, rfl⟩
      | color text literal => exact .inl (word known)
      | keyword text => exact .inl (word known)
      | function text name arguments balanced => exact .inl (word known)
      | unparsed text =>
          simp only [judgeKind] at known
          split at known
          · exact absurd known (by simp [Verdict.reject])
          · exact .inl (word known)

theorem accepted_of_not_isFreeForm {property : Text} {value : Value}
    (bound : isFreeForm property = false)
    (accepted : (judge property value).rejection = none) :
    Value.isWideKeyword value.text.lower = true ∨
      (∃ keywords, keywordsOf? property = some keywords ∧
        listed keywords value.text.lower = true) ∨
      (∃ text color, value = .single (.color text color)) ∨
      ∃ text number unit, value = .single (.length text number unit) := by
  rcases class_of_not_isFreeForm bound with color | ⟨plain, keywords, table⟩
  · rcases accepted_of_takesColor color accepted with wide | literal
    · exact .inl wide
    · exact .inr (.inr (.inl literal))
  · rcases accepted_of_keywordsOf? plain table accepted with (known | wide) | length
    · exact .inr (.inl ⟨keywords, table, known⟩)
    · exact .inl wide
    · exact .inr (.inr (.inr length))

/-- A token that no rule of a free-form property refuses: a length within the limit
whose unit is allowed, an allowed function with as many closing as opening
parentheses, or a token that does not start like a number. -/
def IsHarmlessToken (token : Text) : Prop :=
  match Value.component token with
  | .length _ number unit =>
      ¬ numberLimit < number.abs ∧ (unit = [] ∨ listed allowedUnits unit = true)
  | .function _ name _ balanced =>
      listed allowedFunctions name.lower = true ∧ balanced = true
  | .unparsed text => Value.looksNumeric text = false
  | .keyword _ => True
  | .color _ _ => True

theorem judgeLength_accepts_iff {property text unit : Text} {number : Float} :
    (judgeLength property text number unit).rejection = none ↔
      ¬ numberLimit < number.abs ∧ (unit = [] ∨ listed allowedUnits unit = true) := by
  unfold judgeLength
  by_cases large : numberLimit < number.abs
  · simp [large, Verdict.reject]
  · by_cases allowed : unit = [] ∨ listed allowedUnits unit = true
    · rcases allowed with empty | known
      · simp [large, empty, Verdict.accept]
      · simp [large, known, Verdict.accept]
    · rw [not_or] at allowed
      simp [large, allowed, Verdict.reject]

theorem judgeFunction_accepts_iff {property text name : Text} {balanced : Bool} :
    (judgeFunction property text name balanced).rejection = none ↔
      listed allowedFunctions name.lower = true ∧ balanced = true := by
  unfold judgeFunction
  by_cases allowed : listed allowedFunctions name.lower = true
  · cases balanced with
    | false => simp [allowed, Verdict.reject]
    | true => simp [allowed, Verdict.accept]
  · simp [allowed, Verdict.reject]

section FreeForm

variable {property : Text} (free : isFreeForm property = true)
include free

theorem takesColor_of_isFreeForm : takesColor property = false := by
  simp only [isFreeForm, Bool.and_eq_true] at free
  simpa using free.1

theorem judgeKeyword?_of_isFreeForm (text : Text) : judgeKeyword? property text = none := by
  simp only [isFreeForm, Bool.and_eq_true, Option.isNone_iff_eq_none] at free
  rw [judgeKeyword?, free.2, Option.map_none]

theorem judgeKind_accepts_iff (token : Text) :
    (judgeKind property (Value.component token)).rejection = none ↔
      IsHarmlessToken token := by
  have keyword := judgeKeyword?_of_isFreeForm free
  unfold IsHarmlessToken
  rcases Value.component_cases token with
    ⟨number, unit, shape, _⟩ | ⟨name, arguments, balanced, shape⟩ | shape | shape |
      ⟨color, shape, _⟩ <;> rw [shape]
  · exact judgeLength_accepts_iff
  · simp only [judgeKind, keyword, Option.getD_none]
    exact judgeFunction_accepts_iff
  · simp only [judgeKind, keyword, Option.getD_none, iff_true]
    split <;> rfl
  · by_cases numeric : Value.looksNumeric token = true
    · simp [judgeKind, numeric, Verdict.reject]
    · simp [judgeKind, numeric, keyword, Verdict.doubt]
  · simp [judgeKind, keyword, Verdict.accept]

theorem judgeComponent_accepts_iff (token : Text) :
    (judgeComponent property (Value.component token)).rejection = none ↔
      token ≠ [] ∧ ¬ Value.CallsUrl token ∧ IsHarmlessToken token := by
  rw [judgeComponent, judgeText?_getD_accepts_iff, Value.component_text,
    takesColor_of_isFreeForm free]
  simp only [Bool.false_eq_true, if_false]
  rw [judgeKind_accepts_iff free]

omit free in
theorem judgeParts_accepts_iff (parts : List Value.Component) :
    (judgeParts property parts).rejection = none ↔
      ∀ part ∈ parts, (judgeComponent property part).rejection = none := by
  induction parts with
  | nil => simp [judgeParts, Verdict.accept]
  | cons part parts ih =>
      rw [judgeParts, Verdict.andThen, List.forall_mem_cons, ← ih]
      cases refused : (judgeComponent property part).rejection with
      | none => simp
      | some cause => simp [refused]

/-- A free-form property accepts a trimmed value exactly if the value is not empty,
calls no URL, and has harmless tokens only. -/
theorem judge_ofTokens_accepts_iff {text : Text} (trimmed : Text.trim text = text) :
    (judge property (Value.ofTokens text)).rejection = none ↔
      text ≠ [] ∧ ¬ Value.CallsUrl text ∧
        ∀ token ∈ Value.splitTopLevel text, IsHarmlessToken token := by
  by_cases empty : text = []
  · subst empty
    simp only [ne_eq, not_true_eq_false, false_and, iff_false]
    intro accepted
    exact (text_of_accepted accepted).1 (Value.ofTokens_text [])
  · obtain ⟨first, others, shape, alone⟩ := Value.splitTopLevel_of_trimmed trimmed empty
    cases others with
    | nil =>
        have single : Value.ofTokens text = .single (Value.component text) := by
          rw [Value.ofTokens, shape]
        rw [single, shape, alone rfl, judge, judgeComponent_accepts_iff free]
        simp
    | cons second tokens =>
        have composite : Value.ofTokens text =
            .composite text ((first :: second :: tokens).map Value.component) := by
          rw [Value.ofTokens, shape]
        rw [composite, judge, judgeText?_getD_accepts_iff, takesColor_of_isFreeForm free,
          judgeKeyword?_of_isFreeForm free, Option.getD_none, judgeParts_accepts_iff, shape]
        simp only [Bool.false_eq_true, if_false, List.forall_mem_map,
          judgeComponent_accepts_iff free]
        refine and_congr_right fun _ => and_congr_right fun silent => ?_
        constructor
        · exact fun accepted token member => (accepted token member).2.2
        · intro harmless token member
          have within : token ∈ Value.splitTopLevel text := shape ▸ member
          obtain ⟨nonempty, run⟩ := Value.run_of_mem_splitTopLevel within
          exact ⟨nonempty, fun calls => silent (calls.of_infix run), harmless token member⟩

end FreeForm

end Gate

end CssAudit
