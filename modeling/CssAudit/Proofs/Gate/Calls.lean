import CssAudit.Proofs.Color.Hex
import CssAudit.Proofs.Gate.Language
import CssAudit.Proofs.Gate.Survival
import CssAudit.Proofs.Value.Parentheses

/-!
# Calls in accepted values

A value that the gate accepts strictly has no token that it does not understand, so every
token with a parenthesis is a call, and the function it calls is listed.  What stands
behind the first parenthesis of a token is not looked at.  Accepted calls leave as many
parentheses open as they close without having opened them.
-/

namespace CssAudit

namespace Value

/-- A name in front of an opening parenthesis that goes no further to the left. -/
structure IsCalledAt (text before name after : Text) : Prop where
  shape : text = before ++ (name ++ '(' :: after)
  identifier : IsIdentifier name
  maximal : ∀ more, more ≠ [] → more <:+ before → ¬ IsIdentifier (more ++ name)

/-- A name goes no further to the left than a character that stands in no name. -/
theorem isCalledAt_of_getLast? {text before name after : Text} {c : Char}
    (shape : text = before ++ (name ++ '(' :: after)) (last : before.getLast? = some c)
    (foreign : isNameChar c = false) (identifier : IsIdentifier name) :
    IsCalledAt text before name after where
  shape := shape
  identifier := identifier
  maximal more nonempty ends longer := by
    have ends_alike : more.getLast? = some c := by
      obtain ⟨start, shape⟩ := ends
      rw [← List.getLast?_append_of_ne_nil start nonempty, shape, last]
    have known := longer.isNameChar c
      (List.mem_append_left _ (List.mem_of_mem_getLast? ends_alike))
    rw [foreign] at known
    exact absurd known (by decide)

/-- A call begins with the only name that stands in front of its first parenthesis. -/
theorem WrittenCall.name_eq_of_isCalledAt {call : WrittenCall} {before name after : Text}
    (called : IsCalledAt call.text before name after) (first : '(' ∉ before) :
    name = call.name := by
  obtain ⟨callee, gap, rest, identifier, blank⟩ := call
  obtain ⟨shape, name_identifier, maximal⟩ := called
  have absent {word : Text} (named : IsIdentifier word) : '(' ∉ word := fun member =>
    absurd (named.isNameChar '(' member) (by decide)
  have no_gap : '(' ∉ gap := blank.not_mem (by decide)
  -- The first parenthesis cuts the token at the same place for both.
  have starts : callee ++ gap = before ++ name := by
    have call_cut : Text.cutAt '(' (callee ++ (gap ++ '(' :: rest)) =
        some (callee ++ gap, rest) :=
      Text.cutAt_eq_some_iff.mpr ⟨by simp, by simp [absent identifier, no_gap]⟩
    have name_cut : Text.cutAt '(' (callee ++ (gap ++ '(' :: rest)) =
        some (before ++ name, after) :=
      Text.cutAt_eq_some_iff.mpr
        ⟨by rw [List.append_assoc]; exact shape, by simp [first, absent name_identifier]⟩
    exact congrArg Prod.fst (Option.some.inj (call_cut.symm.trans name_cut))
  have empty_gap : gap = [] := by
    cases last : gap.getLast? with
    | none => exact List.getLast?_eq_none_iff.mp last
    | some c =>
        have ends : (before ++ name).getLast? = some c := by
          rw [← starts, List.getLast?_append, last]
          rfl
        rw [List.getLast?_append_of_ne_nil _ name_identifier.ne_nil] at ends
        have solid := isBlank_of_isNameChar
          (name_identifier.isNameChar c (List.mem_of_mem_getLast? ends))
        rw [blank c (List.mem_of_mem_getLast? last)] at solid
        exact absurd solid (by decide)
  rw [empty_gap, List.append_nil] at starts
  cases before with
  | nil => exact starts.symm
  | cons c before =>
      exact absurd (starts ▸ identifier) (maximal _ (by simp) List.suffix_rfl)

end Value

namespace Gate

open Value (WrittenCall IsCalledAt)

theorem parenthesis_not_mem_of_keyword {property value : Text}
    (known : Value.isWideKeyword value.lower = true ∨ ∃ keywords,
      keywordsOf? property = some keywords ∧ listed keywords value.lower = true) :
    '(' ∉ value := fun member =>
  absurd (isNameChar_of_keyword known '(' (Text.mem_lower_of_mem (by decide) (by decide) member))
    (by decide)

theorem parenthesis_not_mem_of_isWideKeyword {value : Text}
    (wide : Value.isWideKeyword value.lower = true) : '(' ∉ value := by
  have known : Value.isWideKeyword value.lower = true ∨ ∃ keywords,
      keywordsOf? [] = some keywords ∧ listed keywords value.lower = true := .inl wide
  exact parenthesis_not_mem_of_keyword known

theorem call_of_isUnderstood {token : Text} (understood : IsUnderstood token)
    (opens : '(' ∈ token) : ∃ call : WrittenCall, token = call.text := by
  rcases understood with ⟨written, rfl⟩ | call | wide | ⟨hash, parsed⟩
  · have read := Value.length?_eq_some_iff.mpr ⟨written, rfl, rfl⟩
    exact absurd (Value.isLengthChar_of_length? read '(' opens) (by decide)
  · exact call
  · exact absurd opens (parenthesis_not_mem_of_isWideKeyword wide)
  · obtain ⟨color, parsed⟩ := Option.isSome_iff_exists.mp parsed
    exact absurd opens (Color.parenthesis_not_mem_of_sign parsed hash)

/-- A value that is accepted without a warning, whose property is not one of colors, has no
parenthesis outside calls of listed functions. -/
theorem listed_of_understood {property value : Text}
    (allowed : listed allowedProperties property = true) (plain : takesColor property = false)
    (trimmed : Text.trim value = value)
    (accepted : (judge property (Value.parse property value)).rejection = none)
    (unwarned : (judge property (Value.parse property value)).warnings = [])
    {token : Text} (member : token ∈ Value.splitTopLevel value) (opens : '(' ∈ token) :
    ∃ call : WrittenCall, token = call.text ∧
      listed allowedFunctions call.name.lower = true := by
  have tokens : Value.parse property value = Value.ofTokens value := by
    have uncolored : Value.isColorProperty property = false := by
      rwa [Value.isColorProperty, lower_eq_self_of_isNameChar (name_of_allowed allowed).2]
    simp [Value.parse, uncolored, trimmed]
  obtain ⟨nonempty, silent⟩ := text_of_accepted accepted
  rw [Value.parse_text, trimmed] at nonempty silent
  rw [tokens] at accepted unwarned
  cases table : keywordsOf? property with
  | some keywords =>
      have inside : '(' ∈ value := (Value.run_of_mem_splitTopLevel member).2.subset opens
      rcases (judge_ofTokens_accepts_iff_of_keywordsOf? table nonempty silent).mp accepted with
        ⟨written, rfl, _⟩ | known | wide
      · have read := Value.length?_eq_some_iff.mpr ⟨written, rfl, rfl⟩
        exact absurd (Value.isLengthChar_of_length? read '(' inside) (by decide)
      · exact absurd inside (parenthesis_not_mem_of_keyword (.inr ⟨keywords, table, known⟩))
      · exact absurd inside (parenthesis_not_mem_of_isWideKeyword wide)
  | none =>
      have free : isFreeForm property = true := by simp [isFreeForm, plain, table]
      have faultless :=
        (judge_ofTokens_accepts_iff_faultless free trimmed nonempty silent).mp accepted
      rw [judge_ofTokens_warnings free trimmed nonempty silent accepted,
        List.map_eq_nil_iff, List.filter_eq_nil_iff] at unwarned
      have understood : IsUnderstood token := by simpa using unwarned token member
      obtain ⟨call, rfl⟩ := call_of_isUnderstood understood opens
      refine ⟨call, rfl, ?_⟩
      rw [← Bool.not_eq_false]
      exact fun unlisted =>
        faultless call.text member _ (.unlistedFunction (.call call rfl) unlisted)

/-- A declaration that is validated strictly without a rejection survives alone, with its
value in normal form, and its value is accepted without a warning. -/
theorem judged_of_validate_strict {property raw : Text} {result : Result}
    (allowed : listed allowedProperties property = true)
    (ran : validate (Batch.ofTexts [(property, raw)]) true = .ok result)
    (passed : result.rejections = []) :
    result.validated = [(property, sanitizeValue raw)] ∧
      (judge property (Value.parse property (sanitizeValue raw))).rejection = none ∧
      (judge property (Value.parse property (sanitizeValue raw))).warnings = [] := by
  have readable := Batch.readable_ofTexts [(property, raw)]
  by_cases hit : ∃ entry ∈ Batch.ofTexts [(property, raw)], IsHit entry
  · obtain ⟨found, validated, nonempty, _⟩ := validate_of_hit readable true hit
    obtain rfl := Except.ok.inj (validated.symm.trans ran)
    exact absurd passed nonempty
  · have safe : ∀ entry ∈ Batch.ofTexts [(property, raw)], ¬ IsHit entry :=
      fun entry member danger => hit ⟨entry, member, danger⟩
    obtain ⟨outcomes, judged, validated⟩ := validate_of_safe readable true safe
    obtain rfl := Except.ok.inj (validated.symm.trans ran)
    have name_fixed := sanitizeName_eq_self (name_of_allowed allowed).2
    have outcome_eq : judgeEntry (.text property, .text raw) = .ok ⟨property, sanitizeValue raw,
        judge property (Value.parse property (sanitizeValue raw))⟩ := by
      have name_eq : (Scalar.text property).toText = .ok property := rfl
      have value_eq : Batch.valueText? (.text raw) = .ok (some raw) := rfl
      rw [judgeEntry_of_allowed name_eq (by rwa [name_fixed]) value_eq, name_fixed]
      rfl
    have single : (Batch.ofTexts [(property, raw)]).mapM judgeEntry = .ok [_] :=
      Batch.mapM_eq_ok_iff.mpr (.cons outcome_eq .nil)
    obtain rfl := Except.ok.inj (judged.symm.trans single)
    obtain ⟨unrefused, unwarned⟩ := List.append_eq_nil_iff.mp passed
    have accepted : (judge property (Value.parse property (sanitizeValue raw))).rejection =
        none := List.filterMap_eq_nil_iff.mp unrefused _ List.mem_cons_self
    refine ⟨?_, accepted, ?_⟩
    · simp [Result.ofOutcomes, EntryOutcome.accepted?, accepted, OrderedMap.ofList,
        OrderedMap.insertAll, OrderedMap.insert]
    · simpa [strictRejection] using unwarned

/-- The calls of a value that is validated strictly.  The value is its top-level tokens with
single spaces between them, every token with a parenthesis is a call of a listed function,
and so the name in front of the first parenthesis of a token is listed. -/
theorem calls_listed_of_validate_strict {property raw : Text} {result : Result}
    (allowed : listed allowedProperties property = true) (plain : takesColor property = false)
    (ran : validate (Batch.ofTexts [(property, raw)]) true = .ok result)
    (passed : result.rejections = []) :
    ∃ value, result.validated = [(property, value)] ∧
      value = Text.joinWith [' '] (Value.splitTopLevel value) ∧
      ∀ token ∈ Value.splitTopLevel value,
        ('(' ∈ token → ∃ call : WrittenCall, token = call.text ∧
          listed allowedFunctions call.name.lower = true) ∧
        ∀ before name after, IsCalledAt token before name after → '(' ∉ before →
          listed allowedFunctions name.lower = true := by
  obtain ⟨validated, accepted, unwarned⟩ := judged_of_validate_strict allowed ran passed
  have spaced := singleSpaced_sanitizeValue raw
  have nonempty : sanitizeValue raw ≠ [] := by
    have text := (text_of_accepted accepted).1
    rwa [Value.parse_text, spaced.trim_eq] at text
  have call_of {token : Text} (member : token ∈ Value.splitTopLevel (sanitizeValue raw)) :=
    listed_of_understood allowed plain spaced.trim_eq accepted unwarned member
  refine ⟨_, validated, (Value.joinWith_splitTopLevel spaced nonempty).symm,
    fun token member => ⟨call_of member, fun before name after called first => ?_⟩⟩
  obtain ⟨call, rfl, known⟩ := call_of member (by rw [called.shape]; simp)
  rw [call.name_eq_of_isCalledAt called first]
  exact known

/-- Of two calls beside each other both are listed, in whatever case they are written. -/
theorem calls_listed_of_validate_strict_on_two_calls :
    validate (Batch.ofTexts [("transform".toList, "Rotate(1deg)  scale(2)".toList)]) true =
        .ok { validated := [("transform".toList, "Rotate(1deg) scale(2)".toList)] } ∧
      IsCalledAt "Rotate(1deg)".toList [] "Rotate".toList "1deg)".toList ∧
      listed allowedFunctions (Text.lower "Rotate".toList) = true := by
  have ran : validate (Batch.ofTexts
      [("transform".toList, "Rotate(1deg)  scale(2)".toList)]) true =
      .ok { validated := [("transform".toList, "Rotate(1deg) scale(2)".toList)] } := rfl
  have called : IsCalledAt "Rotate(1deg)".toList [] "Rotate".toList "1deg)".toList := {
    shape := rfl
    identifier := Value.isIdentifier_iff.mp rfl
    maximal := fun more nonempty ends => absurd (List.suffix_nil.mp ends) nonempty }
  obtain ⟨value, validated, _, tokens⟩ :=
    calls_listed_of_validate_strict (by decide) (by decide) ran rfl
  obtain rfl : "Rotate(1deg) scale(2)".toList = value := by simpa using validated
  refine ⟨ran, called, (tokens "Rotate(1deg)".toList (by decide)).2 _ _ _ called (by decide)⟩

/-- Behind the first parenthesis of a token any function may be called, inside the arguments
of a listed one and after them. -/
theorem not_listed_behind_first_call :
    (validate (Batch.ofTexts [("width".toList, "calc(evil(1))".toList)]) true =
        .ok { validated := [("width".toList, "calc(evil(1))".toList)] } ∧
      IsCalledAt "calc(evil(1))".toList "calc(".toList "evil".toList "1))".toList) ∧
    (validate (Batch.ofTexts [("width".toList, "calc(1)evil(2)".toList)]) true =
        .ok { validated := [("width".toList, "calc(1)evil(2)".toList)] } ∧
      IsCalledAt "calc(1)evil(2)".toList "calc(1)".toList "evil".toList "2)".toList) ∧
    listed allowedFunctions (Text.lower "evil".toList) = false := by
  have identifier : Value.IsIdentifier "evil".toList := Value.isIdentifier_iff.mp rfl
  refine ⟨⟨rfl, ?_⟩, ⟨rfl, ?_⟩, rfl⟩
  · exact Value.isCalledAt_of_getLast? (c := '(') rfl rfl (by decide) identifier
  · exact Value.isCalledAt_of_getLast? (c := ')') rfl rfl (by decide) identifier

theorem function_of_judgeComponent {property text name arguments : Text} {balanced : Bool}
    (free : isFreeForm property = true)
    (accepted : (judgeComponent property (.function text name arguments balanced)).rejection =
      none) :
    listed allowedFunctions name.lower = true ∧ balanced = true := by
  obtain ⟨_, _, known⟩ := judgeText?_getD_accepts_iff.mp accepted
  rw [takesColor_of_isFreeForm free, if_neg Bool.false_ne_true, judgeKind,
    judgeKeyword?_of_isFreeForm free, Option.getD_none] at known
  exact judgeFunction_accepts_iff.mp known

theorem function_of_accepted {property raw text name arguments : Text} {balanced : Bool}
    (accepted : (judge property (Value.parse property raw)).rejection = none)
    (member : .function text name arguments balanced ∈ (Value.parse property raw).components) :
    listed allowedFunctions name.lower = true ∧ balanced = true := by
  obtain ⟨reads, run⟩ := Value.reads_of_function_mem member
  have inside : '(' ∈ (Value.parse property raw).text := by
    rw [Value.parse_text]
    exact run.subset reads.opens
  generalize Value.parse property raw = value at accepted member inside
  cases free : isFreeForm property with
  | false =>
      rcases accepted_of_not_isFreeForm free accepted with
        wide | keyword | ⟨_, _, rfl⟩ | ⟨_, _, _, rfl⟩
      · exact absurd inside (parenthesis_not_mem_of_isWideKeyword wide)
      · exact absurd inside (parenthesis_not_mem_of_keyword (.inr keyword))
      · exact absurd (List.mem_singleton.mp member) (by simp)
      · exact absurd (List.mem_singleton.mp member) (by simp)
  | true =>
      cases value with
      | single component =>
          obtain rfl := List.mem_singleton.mp member
          exact function_of_judgeComponent free accepted
      | composite whole parts =>
          obtain ⟨_, _, known⟩ := judgeText?_getD_accepts_iff.mp accepted
          rw [takesColor_of_isFreeForm free, if_neg Bool.false_ne_true,
            judgeKeyword?_of_isFreeForm free, Option.getD_none, judgeParts_accepts_iff] at known
          exact function_of_judgeComponent free (known _ member)

/-- What the flag of a function says.  It is set exactly if as many parentheses are closed
without having been opened as are left open, and so it tells whether the parentheses are
nested unless that number is positive.  In an accepted value it is set for every function. -/
theorem function_mem_parse {property raw text name arguments : Text} {balanced : Bool}
    (member : .function text name arguments balanced ∈ (Value.parse property raw).components) :
    (balanced = true ↔
      (Value.unmatched text).closing = (Value.unmatched text).opening) ∧
    (Value.IsNested text ↔
      (Value.unmatched text).closing = 0 ∧ (Value.unmatched text).opening = 0) ∧
    ((balanced = true ↔ Value.IsNested text) ↔
      ¬ (0 < (Value.unmatched text).closing ∧
        (Value.unmatched text).closing = (Value.unmatched text).opening)) ∧
    ((judge property (Value.parse property raw)).rejection = none → balanced = true) := by
  have reads := (Value.reads_of_function_mem member).1
  exact ⟨reads.balanced_iff_unmatched, Value.isNested_iff, reads.balanced_iff_isNested_iff,
    fun accepted => (function_of_accepted accepted member).2⟩

/-- A parenthesis closed too early and one left open pass together. -/
theorem function_mem_parse_on_crossed_parentheses :
    Value.parse "width".toList "calc(1))(".toList =
        .single (.function "calc(1))(".toList "calc".toList "1))(".toList true) ∧
      (judge "width".toList (Value.parse "width".toList "calc(1))(".toList)).rejection = none ∧
      ¬ Value.IsNested "calc(1))(".toList := by
  have read : Value.parse "width".toList "calc(1))(".toList =
      .single (.function "calc(1))(".toList "calc".toList "1))(".toList true) := rfl
  have member : .function "calc(1))(".toList "calc".toList "1))(".toList true ∈
      (Value.parse "width".toList "calc(1))(".toList).components := by
    rw [read]
    exact List.mem_cons_self
  refine ⟨read, by decide, fun nested => ?_⟩
  have one : (Value.unmatched "calc(1))(".toList).closing = 1 := rfl
  have none := ((function_mem_parse member).2.1.mp nested).1
  omega

end Gate

end CssAudit
