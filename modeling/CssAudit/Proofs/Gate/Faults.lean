import CssAudit.Proofs.Gate.Acceptance
import CssAudit.Proofs.Value.Grammar

/-!
# The faults of tokens

A property that is free in form takes any tokens without a fault: a number too large, an
unknown unit, a malformed number, a function that is not listed or whose parentheses do not
match.  A value is refused for the fault of its first faulty token, and each token of an
accepted value that the gate does not understand brings one warning.
-/

namespace CssAudit

namespace Gate

open Value (Reads WrittenLength WrittenCall)

/-- What can be wrong with a token of a free-form property, and the rejection it brings. -/
inductive Faults (property token : Text) : Rejection → Prop
  | tooLarge {number : Float} {unit : Text} : Reads token (.length token number unit) →
      ¬ number.abs ≤ numberLimit → Faults property token (.numberTooLarge property token)
  | unknownUnit {number : Float} {unit : Text} : Reads token (.length token number unit) →
      number.abs ≤ numberLimit → unit ≠ [] → listed allowedUnits unit = false →
      Faults property token (.invalidUnit property unit token)
  | malformedNumber : Reads token (.unparsed token) → Value.StartsNumeric token →
      Faults property token (.invalidNumber property token)
  | unlistedFunction {name arguments : Text} {balanced : Bool} :
      Reads token (.function token name arguments balanced) →
      listed allowedFunctions name.lower = false →
      Faults property token (.invalidFunction property name)
  | mismatched {name arguments : Text} {balanced : Bool} :
      Reads token (.function token name arguments balanced) →
      listed allowedFunctions name.lower = true → token.count '(' ≠ token.count ')' →
      Faults property token (.malformedFunction property token)

/-- Whether the gate understands a token: a length, a call, a keyword that every property
knows, or a hexadecimal color. -/
def IsUnderstood (token : Text) : Prop :=
  (∃ written : WrittenLength, token = written.text) ∨
    (∃ written : WrittenCall, token = written.text) ∨
      Value.isWideKeyword token.lower = true ∨
        token.head? = some '#' ∧ (Color.parse? token).isSome = true

/-- Whether the gate understands a component. -/
def understands : Value.Component → Bool
  | .length _ _ _ | .function _ _ _ _ | .color _ _ => true
  | .keyword text => Value.isWideKeyword text.lower
  | .unparsed _ => false

theorem understands_component_iff {token : Text} :
    understands (Value.component token) = true ↔ IsUnderstood token := by
  constructor
  · intro understood
    have reads := Value.reads_component token
    generalize Value.component token = found at understood reads
    cases reads with
    | length written shape => exact .inl ⟨written, shape⟩
    | call written shape => exact .inr (.inl ⟨written, shape⟩)
    | color color hash parsed =>
        exact .inr (.inr (.inr ⟨hash, Option.isSome_iff_exists.mpr ⟨color, parsed⟩⟩))
    | keyword identifier => exact .inr (.inr (.inl understood))
    | unparsed _ _ _ _ => exact absurd understood Bool.false_ne_true
  · rintro (⟨written, shape⟩ | ⟨written, shape⟩ | wide | ⟨hash, parsed⟩)
    · rw [(Reads.length written shape).component_eq]
      rfl
    · rw [(Reads.call written shape).component_eq]
      rfl
    · rw [(Reads.keyword (Value.isIdentifier_of_isWideKeyword wide)).component_eq]
      exact wide
    · obtain ⟨color, parsed⟩ := Option.isSome_iff_exists.mp parsed
      rw [(Reads.color color hash parsed).component_eq]
      rfl

instance (token : Text) : Decidable (IsUnderstood token) :=
  decidable_of_iff _ understands_component_iff

theorem lt_numberLimit_iff {number : Float} (defined : number.isNaN = false) :
    numberLimit < number.abs ↔ ¬ number.abs ≤ numberLimit :=
  Numeral.lt_iff_not_le (by decide) (by rw [Numeral.isNaN_abs, defined])

theorem judgeLength_warnings (property text : Text) (number : Float) (unit : Text) :
    (judgeLength property text number unit).warnings = [] := by
  unfold judgeLength
  split
  · rfl
  · split <;> rfl

theorem judgeFunction_warnings (property text name : Text) (balanced : Bool) :
    (judgeFunction property text name balanced).warnings = [] := by
  unfold judgeFunction
  split
  · rfl
  · split <;> rfl

/-- Nothing for each known item and one thing for each other are the things for the items
that are left when the known ones are dropped. -/
theorem flatMap_ite_eq_map_filter {α β : Type} (known : α → Prop) [DecidablePred known]
    (f : α → β) (items : List α) :
    (items.flatMap fun item => if known item then [] else [f item]) =
      (items.filter fun item => ¬ known item).map f := by
  induction items with
  | nil => rfl
  | cons item items ih =>
      by_cases holds : known item
      · simp [holds, ih]
      · simp [holds, ih]

theorem faults_of_judgeLength {property token unit : Text} {number : Float} {cause : Rejection}
    (reads : Value.Reads token (.length token number unit))
    (refused : (judgeLength property token number unit).rejection = some cause) :
    Faults property token cause := by
  rw [judgeLength] at refused
  split at refused
  · rename_i large
    obtain rfl := Option.some.inj refused
    exact .tooLarge reads ((lt_numberLimit_iff reads.isNaN_eq).mp large)
  · rename_i small
    rw [lt_numberLimit_iff reads.isNaN_eq, not_not] at small
    split at refused
    · rename_i unknown
      obtain rfl := Option.some.inj refused
      simp only [Bool.and_eq_true, Bool.not_eq_true', List.isEmpty_eq_false_iff] at unknown
      exact .unknownUnit reads small unknown.1 unknown.2
    · exact absurd refused (by simp [Verdict.accept])

theorem faults_of_judgeFunction {property token name arguments : Text} {balanced : Bool}
    {cause : Rejection} (reads : Value.Reads token (.function token name arguments balanced))
    (refused : (judgeFunction property token name balanced).rejection = some cause) :
    Faults property token cause := by
  rw [judgeFunction] at refused
  split at refused
  · rename_i unlisted
    obtain rfl := Option.some.inj refused
    exact .unlistedFunction reads (by simpa using unlisted)
  · rename_i allowed
    split at refused
    · rename_i mismatch
      obtain rfl := Option.some.inj refused
      refine .mismatched reads (by simpa using allowed) fun same => ?_
      rw [reads.balanced_iff.mpr same] at mismatch
      exact absurd mismatch (by decide)
    · exact absurd refused (by simp [Verdict.accept])

section FreeForm

variable {property : Text} (free : isFreeForm property = true)
include free

theorem Faults.rejection_eq {token : Text} {cause : Rejection}
    (fault : Faults property token cause) :
    (judgeKind property (Value.component token)).rejection = some cause := by
  have keyword := judgeKeyword?_of_isFreeForm free
  cases fault with
  | tooLarge reads large =>
      rw [← lt_numberLimit_iff reads.isNaN_eq] at large
      rw [reads.component_eq, judgeKind, judgeLength, if_pos large]
      rfl
  | @unknownUnit number unit reads bounded present unlisted =>
      have small : ¬ numberLimit < number.abs := by
        rw [lt_numberLimit_iff reads.isNaN_eq]
        exact not_not_intro bounded
      rw [reads.component_eq, judgeKind, judgeLength, if_neg small,
        if_pos (by simp [present, unlisted])]
      rfl
  | malformedNumber reads numeric =>
      rw [reads.component_eq]
      simp only [judgeKind, Value.looksNumeric_iff.mpr numeric, if_true]
      rfl
  | unlistedFunction reads unlisted =>
      rw [reads.component_eq]
      simp [judgeKind, keyword, judgeFunction, unlisted, Verdict.reject]
  | mismatched reads allowed mismatch =>
      have flagged := (not_congr reads.balanced_iff).mpr mismatch
      rw [reads.component_eq]
      simp [judgeKind, keyword, judgeFunction, allowed, flagged, Verdict.reject]

theorem judgeKind_rejection_iff {token : Text} {cause : Rejection} :
    (judgeKind property (Value.component token)).rejection = some cause ↔
      Faults property token cause := by
  refine ⟨fun refused => ?_, Faults.rejection_eq free⟩
  have keyword := judgeKeyword?_of_isFreeForm free
  have reads := Value.reads_component token
  have text_eq := Value.component_text token
  cases found : Value.component token with
  | length text number unit =>
      rw [found] at reads text_eq refused
      obtain rfl : text = token := text_eq
      exact faults_of_judgeLength reads refused
  | function text name arguments balanced =>
      rw [found] at reads text_eq refused
      obtain rfl : text = token := text_eq
      simp only [judgeKind, keyword, Option.getD_none] at refused
      exact faults_of_judgeFunction reads refused
  | keyword text =>
      rw [found] at refused
      simp only [judgeKind, keyword, Option.getD_none] at refused
      split at refused <;> exact absurd refused (by simp [Verdict.accept, Verdict.doubt])
  | color text color =>
      rw [found] at refused
      simp only [judgeKind, keyword, Option.getD_none] at refused
      exact absurd refused (by simp [Verdict.accept])
  | unparsed text =>
      rw [found] at reads text_eq refused
      obtain rfl : text = token := text_eq
      simp only [judgeKind, keyword, Option.getD_none] at refused
      split at refused
      · rename_i numeric
        obtain rfl := Option.some.inj refused
        exact .malformedNumber reads (Value.looksNumeric_iff.mp numeric)
      · exact absurd refused (by simp [Verdict.doubt])

theorem judgeKind_warnings {part : Value.Component}
    (accepted : (judgeKind property part).rejection = none) :
    (judgeKind property part).warnings =
      if understands part = true then [] else [⟨property, part.text⟩] := by
  have keyword := judgeKeyword?_of_isFreeForm free
  cases part with
  | length text number unit => exact judgeLength_warnings property text number unit
  | function text name arguments balanced =>
      simp only [judgeKind, keyword, Option.getD_none]
      exact judgeFunction_warnings property text name balanced
  | color text color =>
      simp only [judgeKind, keyword, Option.getD_none]
      rfl
  | keyword text =>
      by_cases wide : Value.isWideKeyword text.lower = true
      · simp [judgeKind, keyword, understands, wide, Verdict.accept]
      · simp [judgeKind, keyword, understands, wide, Verdict.doubt, Value.Component.text]
  | unparsed text =>
      simp only [judgeKind, keyword, Option.getD_none] at accepted ⊢
      split at accepted
      · exact absurd accepted (by simp [Verdict.reject])
      · rename_i plain
        rw [if_neg plain]
        rfl

theorem judgeComponent_eq_judgeKind {part : Value.Component} (nonempty : part.text ≠ [])
    (silent : ¬ Value.CallsUrl part.text) :
    judgeComponent property part = judgeKind property part := by
  rw [← Value.mentionsUrl_iff] at silent
  simp [judgeComponent, judgeText?, nonempty, silent, takesColor_of_isFreeForm free]

omit free in
theorem judgeParts_singleton (part : Value.Component) :
    judgeParts property [part] = judgeComponent property part := by
  unfold judgeParts Verdict.andThen
  cases judged : judgeComponent property part with
  | mk rejection warnings => cases rejection <;> simp [judgeParts, Verdict.accept]

theorem judge_composite {text : Text} (parts : List Value.Component) (nonempty : text ≠ [])
    (silent : ¬ Value.CallsUrl text) :
    judge property (.composite text parts) = judgeParts property parts := by
  rw [← Value.mentionsUrl_iff] at silent
  simp [judge, judgeText?, nonempty, silent, takesColor_of_isFreeForm free,
    judgeKeyword?_of_isFreeForm free]

theorem judge_ofTokens {text : Text} (trimmed : Text.trim text = text) (nonempty : text ≠ [])
    (silent : ¬ Value.CallsUrl text) :
    judge property (Value.ofTokens text) =
      judgeParts property ((Value.splitTopLevel text).map Value.component) := by
  obtain ⟨first, others, shape, alone⟩ := Value.splitTopLevel_of_trimmed trimmed nonempty
  cases others with
  | nil =>
      obtain rfl := alone rfl
      rw [Value.ofTokens, shape, List.map_singleton, judgeParts_singleton]
      rfl
  | cons second tokens =>
      rw [Value.ofTokens, shape]
      exact judge_composite free _ nonempty silent

omit free in
/-- The parts of a value are refused as the first of them that is refused. -/
theorem judgeParts_rejection (parts : List Value.Component) :
    (judgeParts property parts).rejection =
      parts.findSome? fun part => (judgeComponent property part).rejection := by
  induction parts with
  | nil => rfl
  | cons part parts ih =>
      rw [judgeParts, Verdict.andThen, List.findSome?_cons, ← ih]
      cases refused : (judgeComponent property part).rejection with
      | none => rfl
      | some cause => simp [refused]

theorem judgeComponent_warnings {part : Value.Component}
    (accepted : (judgeComponent property part).rejection = none) :
    (judgeComponent property part).warnings =
      if understands part = true then [] else [⟨property, part.text⟩] := by
  obtain ⟨nonempty, silent, _⟩ := judgeText?_getD_accepts_iff.mp accepted
  rw [judgeComponent_eq_judgeKind free nonempty silent] at accepted ⊢
  exact judgeKind_warnings free accepted

/-- The warnings about accepted parts are about those that the gate does not understand,
in order. -/
theorem judgeParts_warnings {parts : List Value.Component}
    (accepted : ∀ part ∈ parts, (judgeComponent property part).rejection = none) :
    (judgeParts property parts).warnings =
      (parts.filter fun part => ¬ understands part = true).map
        fun part => ⟨property, part.text⟩ := by
  rw [← flatMap_ite_eq_map_filter]
  induction parts with
  | nil => rfl
  | cons part parts ih =>
      obtain ⟨first, others⟩ := List.forall_mem_cons.mp accepted
      rw [judgeParts, Verdict.andThen, first, List.flatMap_cons, ← ih others,
        judgeComponent_warnings free first]

section Tokens

variable {text : Text} (trimmed : Text.trim text = text) (nonempty : text ≠ [])
  (silent : ¬ Value.CallsUrl text)
include silent

theorem judgeComponent_of_mem_splitTopLevel {token : Text}
    (member : token ∈ Value.splitTopLevel text) :
    judgeComponent property (Value.component token) =
      judgeKind property (Value.component token) := by
  obtain ⟨solid, run⟩ := Value.run_of_mem_splitTopLevel member
  rw [← Value.component_text token] at solid run
  exact judgeComponent_eq_judgeKind free solid fun calls => silent (calls.of_infix run)

theorem judgeComponent_accepts_iff_faultless {token : Text}
    (member : token ∈ Value.splitTopLevel text) :
    (judgeComponent property (Value.component token)).rejection = none ↔
      ∀ cause, ¬ Faults property token cause := by
  rw [judgeComponent_of_mem_splitTopLevel free silent member,
    Option.eq_none_iff_forall_ne_some]
  exact forall_congr' fun cause => not_congr (judgeKind_rejection_iff free)

include trimmed nonempty

theorem judge_ofTokens_accepts_iff_faultless :
    (judge property (Value.ofTokens text)).rejection = none ↔
      ∀ token ∈ Value.splitTopLevel text, ∀ cause, ¬ Faults property token cause := by
  rw [judge_ofTokens free trimmed nonempty silent, judgeParts_accepts_iff, List.forall_mem_map]
  exact forall₂_congr fun token member =>
    judgeComponent_accepts_iff_faultless free silent member

theorem judge_ofTokens_rejection_iff {cause : Rejection} :
    (judge property (Value.ofTokens text)).rejection = some cause ↔
      ∃ before token after, Value.splitTopLevel text = before ++ token :: after ∧
        (∀ earlier ∈ before, ∀ other, ¬ Faults property earlier other) ∧
        Faults property token cause := by
  rw [judge_ofTokens free trimmed nonempty silent, judgeParts_rejection, List.findSome?_map,
    List.findSome?_eq_some_iff]
  refine exists_congr fun before => exists_congr fun token => exists_congr fun after =>
    and_congr_right fun shape => ?_
  have earlier_mem : ∀ earlier ∈ before, earlier ∈ Value.splitTopLevel text := by
    intro earlier member
    rw [shape]
    exact List.mem_append_left _ member
  have token_mem : token ∈ Value.splitTopLevel text := by
    rw [shape]
    exact List.mem_append_right _ List.mem_cons_self
  rw [and_comm]
  refine and_congr (forall₂_congr fun earlier member => ?_) ?_
  · exact judgeComponent_accepts_iff_faultless free silent (earlier_mem earlier member)
  · rw [Function.comp_apply, judgeComponent_of_mem_splitTopLevel free silent token_mem]
    exact judgeKind_rejection_iff free

theorem judge_ofTokens_warnings
    (accepted : (judge property (Value.ofTokens text)).rejection = none) :
    (judge property (Value.ofTokens text)).warnings =
      ((Value.splitTopLevel text).filter fun token => ¬ IsUnderstood token).map
        fun token => ⟨property, token⟩ := by
  rw [judge_ofTokens free trimmed nonempty silent] at accepted ⊢
  rw [judgeParts_accepts_iff] at accepted
  have parts : ((fun part => decide ¬ understands part = true) ∘ Value.component) =
      fun token => decide ¬ IsUnderstood token := by
    funext token
    simp only [Function.comp_apply, understands_component_iff]
  rw [judgeParts_warnings free accepted, List.filter_map, List.map_map, parts]
  exact List.map_congr_left fun token _ => by
    rw [Function.comp_apply, Value.component_text]

end Tokens

end FreeForm

end Gate

end CssAudit
